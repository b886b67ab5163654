import Omairc.Model.ScrollPlace

/-!
# Returns to a place

A reader who comes back to a transcript lands on the line that was left, whatever was inserted
around it, unless another row answers to the line's key: a line with a msgid answers to that id
alone, and a line without one to its content, whatever msgid the other row carries.
-/

namespace Omairc.Model

/-! ## Keys and rows -/

namespace LineKey

/-- A line answers to its own key. -/
theorem isRow_of {row : Row} {line : LineKey} (keyed : LineKey.of row = some line) :
    line.isRow row = true := by
  obtain ⟨kind, restorable, rfl⟩ := Option.map_eq_some_iff.mp keyed
  rw [isRow]
  split
  · exact beq_self_eq_true _
  · simp [RestorableKind.isKind, restorable]

/-- What answers to a key is a line. -/
theorem exists_of_isRow {row : Row} {line : LineKey} (answers : line.isRow row = true) :
    ∃ key, LineKey.of row = some key := by
  have restorable : ∃ kind, RestorableKind.fromRow row.kind = some kind := by
    rw [isRow] at answers
    split at answers
    · rename_i full
      rw [beq_iff_eq] at answers
      rw [row.chat (answers ▸ full)]
      exact ⟨.message, rfl⟩
    · simp only [RestorableKind.isKind, Bool.and_eq_true, beq_iff_eq] at answers
      exact ⟨line.kind, answers.1.1.1⟩
  obtain ⟨kind, restorable⟩ := restorable
  exact ⟨_, Option.map_eq_some_iff.mpr ⟨kind, restorable, rfl⟩⟩

end LineKey

/-- A divider: a row of no kind that is restored. -/
def Row.IsDivider (row : Row) : Prop := RestorableKind.fromRow row.kind = none

/-- The rows with no key are the dividers. -/
theorem LineKey.of_eq_none {row : Row} : LineKey.of row = none ↔ row.IsDivider :=
  Option.map_eq_none_iff

/-- No two lines have one key. -/
def KeysDistinct (rows : List Row) : Prop := (rows.filterMap LineKey.of).Nodup

instance (rows : List Row) : Decidable (KeysDistinct rows) :=
  inferInstanceAs (Decidable (List.Nodup _))

/-- A key is at one index. -/
theorem KeysDistinct.index_eq {above below : List Row} {kept other : Row} {line : LineKey}
    {index : Nat} (distinct : KeysDistinct (above ++ kept :: below))
    (keyed : LineKey.of kept = some line) (there : (above ++ kept :: below)[index]? = some other)
    (same : LineKey.of other = some line) : index = above.length := by
  rw [KeysDistinct, List.filterMap_append, List.filterMap_cons_some keyed, List.nodup_append,
    List.nodup_cons] at distinct
  obtain ⟨_, ⟨notBelow, _⟩, notAbove⟩ := distinct
  rcases Nat.lt_trichotomy index above.length with before | here | after
  · rw [List.getElem?_append_left before] at there
    have listed : line ∈ above.filterMap LineKey.of :=
      List.mem_filterMap.mpr ⟨other, List.mem_of_getElem? there, same⟩
    exact absurd rfl (notAbove line listed line List.mem_cons_self)
  · exact here
  · obtain ⟨more, rfl⟩ := Nat.exists_eq_add_of_lt after
    rw [List.getElem?_append_right (by omega),
      show above.length + more + 1 - above.length = more + 1 by omega,
      List.getElem?_cons_succ] at there
    exact absurd (List.mem_filterMap.mpr ⟨other, List.mem_of_getElem? there, same⟩) notBelow

/-! ## Edits of a transcript -/

/-- A row is inserted, or a divider is removed. -/
inductive RowEdit : List Row → List Row → Prop
  | insert (above below : List Row) (row : Row) : RowEdit (above ++ below) (above ++ row :: below)
  | remove (above below : List Row) (divider : Row) (isDivider : divider.IsDivider) :
      RowEdit (above ++ divider :: below) (above ++ below)

/-- An edit keeps the lines. -/
theorem RowEdit.mem {rows shown : List Row} {kept : Row} {line : LineKey} (edit : RowEdit rows shown)
    (keyed : LineKey.of kept = some line) (present : kept ∈ rows) : kept ∈ shown := by
  cases edit with
  | insert above below row =>
      rcases List.mem_append.mp present with before | after
      · exact List.mem_append_left _ before
      · exact List.mem_append_right _ (List.mem_cons_of_mem _ after)
  | remove above below divider isDivider =>
      rcases List.mem_append.mp present with before | after
      · exact List.mem_append_left _ before
      · rcases List.mem_cons.mp after with rfl | after
        · rw [LineKey.of_eq_none.mpr isDivider] at keyed
          cases keyed
        · exact List.mem_append_right _ after

/-- The edits of a transcript keep its lines. -/
theorem mem_of_edits {rows shown : List Row} {kept : Row} {line : LineKey}
    (edits : Relation.ReflTransGen RowEdit rows shown) (keyed : LineKey.of kept = some line)
    (present : kept ∈ rows) : kept ∈ shown := by
  induction edits with
  | refl => exact present
  | tail _ edit inductionHypothesis => exact edit.mem keyed inductionHypothesis

/-! ## Capture -/

/-- The first value of a numbered list. -/
theorem findSome?_zipIdx {α β γ : Type} (value : α → Option β) (pair : β → Nat → γ)
    {front : List α} (back : List α) {item : α} {found : β} (offset : Nat)
    (unvalued : ∀ skipped ∈ front, value skipped = none) (here : value item = some found) :
    ((front ++ item :: back).zipIdx offset).findSome? (fun entry =>
      (value entry.1).map (pair · entry.2)) = some (pair found (offset + front.length)) := by
  induction front generalizing offset with
  | nil => simp [here]
  | cons skipped front inductionHypothesis =>
      rw [List.cons_append, List.zipIdx_cons, List.findSome?_cons_of_isNone]
      · rw [inductionHypothesis (offset + 1) fun other listed =>
          unvalued other (List.mem_cons_of_mem _ listed), List.length_cons]
        congr 2
        omega
      · simp [unvalued skipped List.mem_cons_self]

/-- The rows from the top of the view on. -/
def ScrollAnchor.view (anchor : ScrollAnchor) (rows : List Row) : List Row :=
  rows.drop (min anchor.row (rows.length - 1))

/-- The saved line is the first one in the view, under the dividers that were above it there. -/
theorem fromAnchor_line {anchor : ScrollAnchor} {rows : List Row} {line : LineKey}
    (unpinned : anchor.pinnedToBottom = false)
    (first : (anchor.view rows).findSome? LineKey.of = some line) :
    ∃ row lead kept, SavedPlace.fromAnchor anchor rows = .line row anchor.offsetPx line lead ∧
      kept ∈ rows ∧ LineKey.of kept = some line ∧
        ∀ divider ∈ lead, RestorableKind.fromRow divider.kind = none := by
  obtain ⟨skipped, kept, below, view, keyed, dividers⟩ := List.findSome?_eq_some_iff.mp first
  have present : kept ∈ rows := by
    apply List.mem_of_mem_drop (i := min anchor.row (rows.length - 1))
    rw [← ScrollAnchor.view, view]
    exact List.mem_append_right _ List.mem_cons_self
  have full : rows.isEmpty = false := List.isEmpty_eq_false_iff.mpr (List.ne_nil_of_mem present)
  refine ⟨min anchor.row (rows.length - 1) + skipped.length, skipped.map DividerKey.of, kept, ?_,
    present, keyed, ?_⟩
  · have found := findSome?_zipIdx LineKey.of
      (fun key rel => (rel, min anchor.row (rows.length - 1) + rel, key)) below 0 dividers keyed
    rw [← view, ScrollAnchor.view, Nat.zero_add] at found
    rw [ScrollAnchor.view] at view
    simp only [SavedPlace.fromAnchor, unpinned, full, Bool.or_self, Bool.false_eq_true, if_false]
    rw [found]
    simp only [view, List.take_left]
  · intro divider listed
    obtain ⟨row, skippedRow, rfl⟩ := List.mem_map.mp listed
    exact LineKey.of_eq_none.mp (dividers row skippedRow)

/-! ## Search -/

/-- The search for a line comes to the line itself: at the saved index, where the row there answers
to a key without msgid, and otherwise since no row above the line answers to its key. -/
def Recognized (line : LineKey) (row : Nat) (above shown : List Row) : Prop :=
  if line.msgid = "" ∧ shown[row]?.any line.isRow = true then row = above.length
  else ∀ earlier ∈ above, line.isRow earlier = false

/-- A list is cut at an index. -/
theorem split_at {α : Type} {items : List α} {index : Nat} {item : α}
    (there : items[index]? = some item) :
    ∃ front back, items = front ++ item :: back ∧ index = front.length := by
  obtain ⟨inside, rfl⟩ := List.getElem?_eq_some_iff.mp there
  refine ⟨items.take index, items.drop (index + 1), ?_, ?_⟩
  · rw [← List.drop_eq_getElem_cons inside, List.take_append_drop]
  · rw [List.length_take, Nat.min_eq_left (Nat.le_of_lt inside)]

/-- The two searches of a whole transcript are one. -/
theorem findLine_eq (line : LineKey) (row : Nat) (rows : List Row) :
    findLine line row rows =
      if line.msgid = "" ∧ rows[row]?.any line.isRow = true then some row
      else rows.findIdx? line.isRow := by
  by_cases keyless : line.msgid = ""
  · simp [findLine, keyless]
  · have byMsgid : line.isRow = fun row => row.msgid == line.msgid := by
      ext other
      rw [LineKey.isRow, if_pos keyless]
    simp [findLine, rowForMsgid, keyless, byMsgid]

/-- What is found answers to the key. -/
theorem isRow_of_findLine {line : LineKey} {row found : Nat} {rows : List Row}
    (finds : findLine line row rows = some found) :
    ∃ other, rows[found]? = some other ∧ line.isRow other = true := by
  rw [findLine_eq] at finds
  split at finds
  · rename_i answers
    cases finds
    exact (Option.any_eq_true _ _).mp answers.2
  · obtain ⟨inside, answers, _⟩ := List.findIdx?_eq_some_iff_getElem.mp finds
    exact ⟨_, List.getElem?_eq_getElem inside, answers⟩

/-- The line itself is found just when it is recognized. -/
theorem findLine_here {line : LineKey} {row : Nat} {above below : List Row} {kept : Row}
    (answers : line.isRow kept = true) :
    findLine line row (above ++ kept :: below) = some above.length ↔
      Recognized line row above (above ++ kept :: below) := by
  rw [findLine_eq, Recognized]
  split
  · rw [Option.some_inj]
  · constructor
    · intro finds earlier listed
      obtain ⟨index, inside, rfl⟩ := List.mem_iff_getElem.mp listed
      obtain ⟨_, _, before⟩ := List.findIdx?_eq_some_iff_getElem.mp finds
      have missed := before index inside
      rw [List.getElem_append_left inside] at missed
      exact Bool.eq_false_iff.mpr missed
    · intro before
      rw [List.findIdx?_append, List.findIdx?_eq_none_iff.mpr before, List.findIdx?_cons,
        if_pos answers]
      simp

/-! ## Landing -/

/-- A view lands on a line: the first line at or below its top is that line, and the offset and the
dividers on top are kept exactly when these dividers sit directly above the line. -/
def LandsOn (line : LineKey) (offsetPx : Int) (lead : List DividerKey) (above shown : List Row)
    (resumed : Resume) : Prop :=
  ∃ top px, resumed = .line top px ∧ (shown.drop top).findSome? LineKey.of = some line ∧
    if lead <:+ above.map DividerKey.of then top + lead.length = above.length ∧ px = offsetPx
    else top = above.length ∧ px = 0

/-- Where a found line lands. -/
theorem resume_found {line : LineKey} {row found : Nat} {rows : List Row} (offsetPx : Int)
    (lead : List DividerKey) (finds : findLine line row rows = some found) :
    resume (some (.line row offsetPx line lead)) rows =
      if lead <:+ (rows.take found).map DividerKey.of then .line (found - lead.length) offsetPx
      else .line found 0 := by
  obtain ⟨other, there, _⟩ := isRow_of_findLine finds
  have inside : found < rows.length := (List.getElem?_eq_some_iff.mp there).1
  have full : rows.isEmpty = false :=
    List.isEmpty_eq_false_iff.mpr (List.ne_nil_of_length_pos (by omega))
  have size : ((rows.take found).map DividerKey.of).length = found := by
    rw [List.length_map, List.length_take, Nat.min_eq_left (Nat.le_of_lt inside)]
  have suffix : (lead.length ≤ found &&
      ((rows.take found).drop (found - lead.length)).map DividerKey.of == lead) = true ↔
        lead <:+ (rows.take found).map DividerKey.of := by
    rw [Bool.and_eq_true, decide_eq_true_eq, beq_iff_eq, List.map_drop]
    constructor
    · rintro ⟨_, same⟩
      rw [← same]
      exact List.drop_suffix _ _
    · intro suffix
      have short := suffix.length_le
      have same := List.suffix_iff_eq_drop.mp suffix
      rw [size] at short same
      exact ⟨short, same.symm⟩
  simp only [resume, full, finds, Bool.false_eq_true, if_false, suffix]

/-- The first line from dividers on is the line under them. -/
theorem firstLine_under {above below : List Row} {other : Row} {key : LineKey}
    {lead : List DividerKey} (keyed : LineKey.of other = some key)
    (dividers : ∀ divider ∈ lead, RestorableKind.fromRow divider.kind = none)
    (suffix : lead <:+ above.map DividerKey.of) :
    ((above ++ other :: below).drop (above.length - lead.length)).findSome? LineKey.of =
      some key := by
  have onTop : (above.drop (above.length - lead.length)).map DividerKey.of = lead := by
    have same := List.suffix_iff_eq_drop.mp suffix
    rw [List.length_map, ← List.map_drop] at same
    exact same.symm
  have none : (above.drop (above.length - lead.length)).findSome? LineKey.of = none := by
    rw [List.findSome?_eq_none_iff]
    intro row listed
    have key : DividerKey.of row ∈ lead := onTop ▸ List.mem_map_of_mem listed
    exact LineKey.of_eq_none.mpr (dividers _ key)
  rw [List.drop_append_of_le_length (Nat.sub_le _ _), List.findSome?_append, none,
    List.findSome?_cons_of_isSome]
  · simp [keyed]
  · simp [keyed]

/-- A found row is landed on. -/
theorem landsOn_found {above below : List Row} {other : Row} {line key : LineKey} {row : Nat}
    (offsetPx : Int) {lead : List DividerKey} (keyed : LineKey.of other = some key)
    (dividers : ∀ divider ∈ lead, RestorableKind.fromRow divider.kind = none)
    (finds : findLine line row (above ++ other :: below) = some above.length) :
    LandsOn key offsetPx lead above (above ++ other :: below)
      (resume (some (.line row offsetPx line lead)) (above ++ other :: below)) := by
  rw [resume_found offsetPx lead finds, List.take_left]
  split
  · rename_i suffix
    have short := suffix.length_le
    rw [List.length_map] at short
    refine ⟨_, _, rfl, firstLine_under keyed dividers suffix, ?_⟩
    rw [if_pos suffix]
    exact ⟨by omega, rfl⟩
  · rename_i apart
    refine ⟨_, _, rfl, ?_, ?_⟩
    · rw [List.drop_left, List.findSome?_cons_of_isSome] <;> simp [keyed]
    · rw [if_neg apart]
      exact ⟨rfl, rfl⟩

/-- A return lands on its line just when the search recognizes it. -/
theorem landsOn_iff {above below : List Row} {kept : Row} {line : LineKey} (row : Nat)
    (offsetPx : Int) {lead : List DividerKey}
    (distinct : KeysDistinct (above ++ kept :: below)) (keyed : LineKey.of kept = some line)
    (dividers : ∀ divider ∈ lead, RestorableKind.fromRow divider.kind = none) :
    LandsOn line offsetPx lead above (above ++ kept :: below)
        (resume (some (.line row offsetPx line lead)) (above ++ kept :: below)) ↔
      Recognized line row above (above ++ kept :: below) := by
  rw [← findLine_here (LineKey.isRow_of keyed)]
  constructor
  · intro lands
    have present : ∃ found, findLine line row (above ++ kept :: below) = some found := by
      rw [findLine_eq]
      split
      · exact ⟨row, rfl⟩
      · exact Option.isSome_iff_exists.mp (List.findIdx?_isSome.trans
          (List.any_eq_true.mpr ⟨kept, List.mem_append_right _ List.mem_cons_self,
            LineKey.isRow_of keyed⟩))
    obtain ⟨found, finds⟩ := present
    obtain ⟨other, there, answers⟩ := isRow_of_findLine finds
    obtain ⟨key, otherKeyed⟩ := LineKey.exists_of_isRow answers
    -- The view lands on the row that was found, so that row has the key of the line.
    obtain ⟨front, back, shape, size⟩ := split_at there
    rw [shape, size] at finds
    obtain ⟨top, px, resumed, first, _⟩ := landsOn_found offsetPx otherKeyed dividers finds
    obtain ⟨landed, _, landing, line, _⟩ := lands
    rw [shape, resumed] at landing
    injection landing with same
    rw [← same, shape, first] at line
    rw [distinct.index_eq keyed there (otherKeyed.trans line)] at size
    rw [shape, size]
    exact finds
  · intro finds
    exact landsOn_found offsetPx keyed dividers finds

/-! ## Stored places -/

/-- A line that the settings file tells apart: one with a msgid, or one whose author and time are
no empty texts. -/
def LineKey.IsStorable (line : LineKey) : Prop :=
  line.msgid = "" → line.author ≠ some "" ∧ line.time ≠ some ""

/-- A text that is not empty is stored and read back, and so is none. -/
theorem stored_text {text : Option String} (apart : text ≠ some "") :
    (if text.getD "" ≠ "" then some (text.getD "") else none) = text := by
  cases text with
  | none => rfl
  | some text => exact if_pos fun empty => apart (congrArg some empty)

/-- What is read back of a stored line answers to the same rows. -/
theorem fromStored_toStored {line : LineKey} (storable : line.IsStorable) (row : Nat)
    (offsetPx : Int) (lead : List DividerKey) :
    ∃ restored : LineKey, SavedPlace.fromStored (SavedPlace.toStored (.line row offsetPx line lead)) =
      some (.line 0 0 restored []) ∧ restored.msgid = line.msgid ∧ restored.isRow = line.isRow := by
  obtain ⟨kind, author, time, text, msgid⟩ := line
  by_cases keyless : msgid = ""
  · subst keyless
    obtain ⟨author, time⟩ := storable rfl
    exact ⟨_, by simp [SavedPlace.toStored, SavedPlace.fromStored, stored_text author,
      stored_text time], rfl, rfl⟩
  · refine ⟨⟨.message, none, none, "", msgid⟩, ?_, rfl, ?_⟩
    · simp [SavedPlace.toStored, SavedPlace.fromStored, keyless]
    · funext other
      rw [LineKey.isRow, LineKey.isRow, if_pos keyless, if_pos keyless]

/-! ## Returns -/

/-- **Returns land on their line.** The line first in the view is captured, and after any edits a
return lands on it just when the search recognizes it. Stored and read back, it is found just when
no row above it answers to its key. -/
theorem resume_fromAnchor {anchor : ScrollAnchor} {rows shown : List Row} {line : LineKey}
    (unpinned : anchor.pinnedToBottom = false)
    (first : (anchor.view rows).findSome? LineKey.of = some line)
    (edits : Relation.ReflTransGen RowEdit rows shown) (distinct : KeysDistinct shown) :
    ∃ row lead above kept below,
      SavedPlace.fromAnchor anchor rows = .line row anchor.offsetPx line lead ∧
        shown = above ++ kept :: below ∧ LineKey.of kept = some line ∧
          (LandsOn line anchor.offsetPx lead above shown
              (resume (some (SavedPlace.fromAnchor anchor rows)) shown) ↔
            Recognized line row above shown) ∧
          (line.IsStorable → ∃ restored,
            SavedPlace.fromStored (SavedPlace.fromAnchor anchor rows).toStored =
              some (.line 0 0 restored []) ∧
            (findLine restored 0 shown = some above.length ↔
              ∀ earlier ∈ above, line.isRow earlier = false)) := by
  obtain ⟨row, lead, kept, place, present, keyed, dividers⟩ := fromAnchor_line unpinned first
  obtain ⟨above, below, rfl⟩ := List.append_of_mem (mem_of_edits edits keyed present)
  refine ⟨row, lead, above, kept, below, place, rfl, keyed, ?_, ?_⟩
  · rw [place]
    exact landsOn_iff row anchor.offsetPx distinct keyed dividers
  · intro storable
    obtain ⟨restored, reads, msgid, answers⟩ :=
      fromStored_toStored storable row anchor.offsetPx lead
    refine ⟨restored, place ▸ reads, ?_⟩
    rw [findLine_here (answers ▸ LineKey.isRow_of keyed), Recognized, msgid, answers]
    cases above with
    | nil => simp
    | cons top above =>
        -- A row that answers at the first index is above the line.
        split
        · rename_i answersTop
          constructor
          · intro zero
            cases zero
          · intro before
            have missed := before top List.mem_cons_self
            simp [missed] at answersTop
        · exact Iff.rfl

/-- A chat line of one author and minute. -/
def chatRow (msgid plain : String) : Row where
  kind := .message
  author := some "anna"
  time := some "09:00"
  plain := plain
  msgid := msgid
  chat := fun _ => rfl

/-- A line without msgid, above which a row was inserted, is landed on with its offset. -/
theorem resume_fromAnchor_shifted :
    LandsOn ⟨.message, some "anna", some "09:00", "ok", ""⟩ 5 []
      [chatRow "m0" "new", chatRow "m1" "hi"]
      [chatRow "m0" "new", chatRow "m1" "hi", chatRow "" "ok"]
      (resume (some (SavedPlace.fromAnchor ⟨1, 5, false⟩ [chatRow "m1" "hi", chatRow "" "ok"]))
        [chatRow "m0" "new", chatRow "m1" "hi", chatRow "" "ok"]) := by
  obtain ⟨row, lead, above, kept, below, place, shape, keyed, lands, _⟩ :=
    @resume_fromAnchor ⟨1, 5, false⟩ [chatRow "m1" "hi", chatRow "" "ok"]
      [chatRow "m0" "new", chatRow "m1" "hi", chatRow "" "ok"]
      ⟨.message, some "anna", some "09:00", "ok", ""⟩ rfl (by decide)
      (.single (.insert [] _ _)) (by decide)
  have distinct : KeysDistinct (above ++ kept :: below) := shape ▸ (by decide)
  have position : 2 = above.length :=
    distinct.index_eq keyed (shape ▸ rfl : _ = some (chatRow "" "ok")) (by decide)
  have captured : SavedPlace.fromAnchor ⟨1, 5, false⟩ [chatRow "m1" "hi", chatRow "" "ok"] =
      .line 1 5 ⟨.message, some "anna", some "09:00", "ok", ""⟩ [] := by decide
  have onTop : above = [chatRow "m0" "new", chatRow "m1" "hi"] := by
    have cut := congrArg (List.take 2) shape
    rw [position, List.take_left, ← position] at cut
    exact cut.symm
  rw [captured] at place
  injection place with atRow _ _ bare
  subst onTop atRow bare
  apply lands.mpr
  rw [Recognized, if_neg (by decide)]
  decide

/-- A line without msgid is lost to a row with its content that came to stand at the saved index
and has a msgid, and so another key. -/
theorem resume_mistakes_content :
    KeysDistinct [chatRow "m1" "ok", chatRow "" "ok"] ∧
      KeysDistinct [chatRow "m0" "new", chatRow "m1" "ok", chatRow "" "ok"] ∧
      Relation.ReflTransGen RowEdit [chatRow "m1" "ok", chatRow "" "ok"]
        [chatRow "m0" "new", chatRow "m1" "ok", chatRow "" "ok"] ∧
      SavedPlace.fromAnchor ⟨1, 5, false⟩ [chatRow "m1" "ok", chatRow "" "ok"] =
        .line 1 5 ⟨.message, some "anna", some "09:00", "ok", ""⟩ [] ∧
      ¬ LandsOn ⟨.message, some "anna", some "09:00", "ok", ""⟩ 5 []
        [chatRow "m0" "new", chatRow "m1" "ok"]
        [chatRow "m0" "new", chatRow "m1" "ok", chatRow "" "ok"]
        (resume (some (SavedPlace.fromAnchor ⟨1, 5, false⟩ [chatRow "m1" "ok", chatRow "" "ok"]))
          [chatRow "m0" "new", chatRow "m1" "ok", chatRow "" "ok"]) := by
  refine ⟨by decide, by decide, .single (.insert [] _ _), by decide, ?_⟩
  have resumed : resume
      (some (SavedPlace.fromAnchor ⟨1, 5, false⟩ [chatRow "m1" "ok", chatRow "" "ok"]))
      [chatRow "m0" "new", chatRow "m1" "ok", chatRow "" "ok"] = .line 1 5 := by decide
  rintro ⟨top, px, lands, first, _⟩
  rw [resumed] at lands
  injection lands with here
  subst here
  revert first
  decide

end Omairc.Model
