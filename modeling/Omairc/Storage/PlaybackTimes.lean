import Omairc.Irc.Reducer.Transcript
import Omairc.Text.Maps

/-!
# The newest time of each target

The store keeps one row for each target of a network, with the newest server time that was
noted for it. A note raises the row of its target, and a rename moves a row or merges it into
the row of its new name.
-/

namespace Omairc.Playback

open Omairc.Text Omairc.Irc Omairc.Irc.Reducer

/-- A target and its time: milliseconds in a row of the store, an instant in a snapshot. -/
structure PlaybackTime where
  target : String
  time : Int

/-- A row of the store, in milliseconds since the epoch. -/
abbrev PlaybackEntry := PlaybackTime

/-- A row of a snapshot, an instant. -/
abbrev PlaybackTargetTime := PlaybackTime

/-! ## Rows -/

/-- The place of the first row of a target. -/
def playbackIndexOfTarget (rows : List PlaybackTime) (target : String)
    (mapping : IrcCaseMapping) : Option Nat :=
  rows.findIdx? fun row => mapping.equals row.target target

/-- The time in the first row of a target. -/
def timeOfTarget (rows : List PlaybackTime) (target : String) (mapping : IrcCaseMapping) :
    Option Int :=
  (rows.find? fun row => mapping.equals row.target target).map PlaybackTime.time

/-- The rows after a time was noted for a target, when it is newer than the one there. -/
def notedRows (rows : List PlaybackEntry) (target : String) (milliseconds : Int)
    (mapping : IrcCaseMapping) : Option (List PlaybackEntry) :=
  match playbackIndexOfTarget rows target mapping with
  | some index =>
      if (rows[index]?).any fun row => decide (milliseconds ≤ row.time) then none
      else some (rows.modify index fun row => { row with time := milliseconds })
  | none => some (rows ++ [{ target, time := milliseconds }])

/-- The rows after a moved time landed on a name. Where the name has a row already, `replaces`
says whether the moved time takes the place of the standing one. -/
def landedRows (replaces : Int → Int → Bool) (others : List PlaybackTime) (newTarget : String)
    (moved : Int) (mapping : IrcCaseMapping) : List PlaybackTime :=
  match playbackIndexOfTarget others newTarget mapping with
  | some index =>
      others.modify index fun row => if replaces moved row.time then { row with time := moved } else row
  | none => others ++ [{ target := newTarget, time := moved }]

/-- The rows after a target was renamed. -/
def rekeyedRows (replaces : Int → Int → Bool) (rows : List PlaybackTime)
    (oldTarget newTarget : String) (mapping : IrcCaseMapping) : List PlaybackTime :=
  match playbackIndexOfTarget rows oldTarget mapping with
  | none => rows
  | some oldIndex =>
      if mapping.equals oldTarget newTarget then
        rows.modify oldIndex fun row => { row with target := newTarget }
      else
        let moved := ((rows[oldIndex]?).map PlaybackTime.time).getD 0
        landedRows replaces (rows.eraseIdx oldIndex) newTarget moved mapping

/-! ## The store -/

/-- The last instant of the calendar. -/
def latestTime : Instant := 8210266876800 * 10 ^ 9 - 1

/-- The instant of a number of milliseconds, or the epoch when the calendar does not hold it. -/
def fromTimestampMillis (milliseconds : Int) : Instant :=
  let time := milliseconds * 10 ^ 6
  if zeroTime ≤ time ∧ time ≤ latestTime then time else 0

/-- The rows of every network: those read or changed in this run, those in the settings file,
and whether the file takes writes. -/
structure PlaybackTimeStore where
  cache : StringMap (List PlaybackEntry) := ∅
  saved : StringMap (List PlaybackEntry) := ∅
  writable : Bool := true

namespace PlaybackTimeStore

/-- The rows of a network. -/
def playbackEntries (store : PlaybackTimeStore) (networkId : String) : List PlaybackEntry :=
  if networkId = "" then []
  else (store.cache[networkId]?).getD ((store.saved[networkId]?).getD [])

/-- Every target of a network with the instant of its row, in the order of the rows. -/
def targets (store : PlaybackTimeStore) (networkId : String) : List PlaybackTargetTime :=
  (store.playbackEntries networkId).map fun row =>
    { row with time := fromTimestampMillis row.time }

/-- The stored instant of a target. -/
def noted (store : PlaybackTimeStore) (networkId target : String) (mapping : IrcCaseMapping) :
    Option Instant :=
  if networkId = "" ∨ target = "" then none
  else
    (timeOfTarget (store.playbackEntries networkId) target mapping).map fromTimestampMillis

/-- Write the rows of a network to the file. A network without rows has no group in it. -/
def playbackSave (store : PlaybackTimeStore) (networkId : String) : PlaybackTimeStore :=
  if networkId = "" ∨ store.writable = false then store
  else
    match (store.cache[networkId]?).getD [] with
    | [] => { store with saved := store.saved.erase networkId }
    | rows => { store with saved := store.saved.insert networkId rows }

/-- Keep the rows of a network and write them. -/
def keep (store : PlaybackTimeStore) (networkId : String) (rows : List PlaybackEntry) :
    PlaybackTimeStore :=
  { store with cache := store.cache.insert networkId rows }.playbackSave networkId

/-- Record the time of a target, when it is newer than the stored one. -/
def note (store : PlaybackTimeStore) (networkId target : String) (time : Instant)
    (mapping : IrcCaseMapping) : PlaybackTimeStore × Bool :=
  if networkId = "" ∨ target = "" ∨ time = zeroTime then (store, false)
  else
    match notedRows (store.playbackEntries networkId) target (timestampMillis time) mapping with
    | none => (store, false)
    | some rows => (store.keep networkId rows, true)

/-- Whether the moved time is newer than the standing one. -/
def newer (moved standing : Int) : Bool := decide (standing < moved)

/-- Rename a target. Where both names have a row, the newer time stays. -/
def rekey (store : PlaybackTimeStore) (networkId oldTarget newTarget : String)
    (mapping : IrcCaseMapping) : PlaybackTimeStore × Bool :=
  if networkId = "" ∨ oldTarget = "" ∨ newTarget = "" then (store, false)
  else
    let rows := store.playbackEntries networkId
    match (playbackIndexOfTarget rows oldTarget mapping).bind fun index => rows[index]? with
    | none => (store, false)
    | some row =>
        if mapping.equals oldTarget newTarget && row.target == newTarget then (store, false)
        else
          (store.keep networkId (rekeyedRows newer rows oldTarget newTarget mapping), true)

/-- Forget the rows of a network. -/
def forget (store : PlaybackTimeStore) (networkId : String) : PlaybackTimeStore :=
  if networkId = "" then store
  else { store with cache := store.cache.erase networkId }.playbackSave networkId

end PlaybackTimeStore

section Rows

variable (rows front back : List PlaybackTime) (row : PlaybackTime) (target : String)
  (mapping : IrcCaseMapping)

@[simp]
theorem timeOfTarget_nil : timeOfTarget [] target mapping = none := rfl

theorem timeOfTarget_cons :
    timeOfTarget (row :: rows) target mapping =
      if mapping.equals row.target target then some row.time
      else timeOfTarget rows target mapping := by
  rw [timeOfTarget, List.find?_cons]
  cases mapping.equals row.target target <;> rfl

theorem timeOfTarget_append :
    timeOfTarget (front ++ back) target mapping =
      (timeOfTarget front target mapping).or (timeOfTarget back target mapping) := by
  rw [timeOfTarget, List.find?_append, Option.map_or]
  rfl

/-- A target has no time when no row is its. -/
theorem timeOfTarget_eq_none :
    timeOfTarget rows target mapping = none ↔
      ∀ row ∈ rows, mapping.equals row.target target = false := by
  rw [timeOfTarget, Option.map_eq_none_iff, List.find?_eq_none]
  simp only [Bool.not_eq_true]

variable {rows target mapping}

/-- The row a place names is the first one of its target. -/
theorem index_split {index : Nat} (found : playbackIndexOfTarget rows target mapping = some index) :
    ∃ front row back, rows = front ++ row :: back ∧ front.length = index ∧
      timeOfTarget front target mapping = none ∧ mapping.equals row.target target = true := by
  obtain ⟨bound, own, before⟩ := List.findIdx?_eq_some_iff_getElem.mp found
  refine ⟨rows.take index, rows[index], rows.drop (index + 1), ?_, ?_, ?_, own⟩
  · rw [List.getElem_cons_drop, List.take_append_drop]
  · rw [List.length_take]
    omega
  · rw [timeOfTarget_eq_none]
    intro row listed
    obtain ⟨place, within, rfl⟩ := List.mem_take_iff_getElem.mp listed
    exact Bool.eq_false_iff.mpr (before place (by omega))

theorem index_eq_none :
    playbackIndexOfTarget rows target mapping = none ↔ timeOfTarget rows target mapping = none := by
  rw [timeOfTarget_eq_none, playbackIndexOfTarget, List.findIdx?_eq_none_iff]

theorem index_of_split {front back : List PlaybackTime} {row : PlaybackTime}
    (before : timeOfTarget front target mapping = none)
    (own : mapping.equals row.target target = true) :
    playbackIndexOfTarget (front ++ row :: back) target mapping = some front.length := by
  rw [← index_eq_none] at before
  rw [playbackIndexOfTarget] at before ⊢
  rw [List.findIdx?_append, before, List.findIdx?_cons, own]
  simp

end Rows

/-- Changing the row at a place changes the row behind as many others. -/
theorem modify_split (front back : List PlaybackTime) (row : PlaybackTime)
    (change : PlaybackTime → PlaybackTime) :
    (front ++ row :: back).modify front.length change = front ++ change row :: back := by
  induction front with
  | nil => rfl
  | cons first rest inductionHypothesis =>
      rw [List.cons_append, List.length_cons, List.modify_succ_cons, inductionHypothesis,
        List.cons_append]

theorem eraseIdx_split (front back : List PlaybackTime) (row : PlaybackTime) :
    (front ++ row :: back).eraseIdx front.length = front ++ back := by
  rw [List.eraseIdx_append_of_length_le (Nat.le_refl _), Nat.sub_self, List.eraseIdx_cons_zero]

/-- Names that are equal under a mapping are equal to the same names. -/
theorem equals_congr {mapping : IrcCaseMapping} {left right : String}
    (same : mapping.equals left right = true) (other : String) :
    mapping.equals other left = mapping.equals other right := by
  rw [IrcCaseMapping.equals, beq_iff_eq] at same
  rw [IrcCaseMapping.equals, IrcCaseMapping.equals, same]

theorem timeOfTarget_congr {mapping : IrcCaseMapping} {left right : String}
    (same : mapping.equals left right = true) (rows : List PlaybackTime) :
    timeOfTarget rows left mapping = timeOfTarget rows right mapping := by
  induction rows with
  | nil => rfl
  | cons row rest inductionHypothesis =>
      rw [timeOfTarget_cons, timeOfTarget_cons, inductionHypothesis, equals_congr same]

/-! ## Notes and renames -/

/-- Whether a note of one target lands on the row of another one, or makes its first row. -/
def noteReaches (rows : List PlaybackEntry) (noted : String) (notedMapping : IrcCaseMapping)
    (target : String) (mapping : IrcCaseMapping) : Bool :=
  match playbackIndexOfTarget rows target mapping with
  | some index => playbackIndexOfTarget rows noted notedMapping == some index
  | none =>
      (playbackIndexOfTarget rows noted notedMapping).isNone && mapping.equals noted target

/-- A note leaves the time of a target, or it reaches the target and its time is the noted one. -/
theorem timeOfTarget_noted (rows : List PlaybackEntry) (noted : String) (milliseconds : Int)
    (notedMapping : IrcCaseMapping) (target : String) (mapping : IrcCaseMapping) :
    timeOfTarget ((notedRows rows noted milliseconds notedMapping).getD rows) target mapping =
        timeOfTarget rows target mapping ∨
      noteReaches rows noted notedMapping target mapping = true ∧
        timeOfTarget ((notedRows rows noted milliseconds notedMapping).getD rows) target mapping =
          some milliseconds := by
  rw [notedRows]
  cases place : playbackIndexOfTarget rows noted notedMapping with
  | none =>
      rw [Option.getD_some, timeOfTarget_append, timeOfTarget_cons, timeOfTarget_nil]
      cases time : timeOfTarget rows target mapping with
      | some standing => exact .inl rfl
      | none =>
          rw [Option.none_or]
          by_cases same : mapping.equals noted target = true
          · refine .inr ⟨?_, if_pos same⟩
            rw [noteReaches, index_eq_none.mpr time, place, same]
            rfl
          · exact .inl (if_neg same)
  | some index =>
      dsimp only
      split
      · exact .inl rfl
      · obtain ⟨front, row, back, rfl, rfl, before, own⟩ := index_split place
        rw [Option.getD_some, modify_split, timeOfTarget_append, timeOfTarget_append,
          timeOfTarget_cons, timeOfTarget_cons]
        cases time : timeOfTarget front target mapping with
        | some standing => exact .inl rfl
        | none =>
            rw [Option.none_or, Option.none_or]
            by_cases same : mapping.equals row.target target = true
            · refine .inr ⟨?_, if_pos same⟩
              rw [noteReaches, index_of_split time same, place]
              exact beq_self_eq_true _
            · exact .inl (by rw [if_neg same, if_neg same])

/-- The name a target goes by after a rename. -/
def followed (target oldTarget newTarget : String) (mapping : IrcCaseMapping) : String :=
  if mapping.equals oldTarget target then newTarget else target

/-- The name that a rename merges a target with: its old name merges into the row of the new
one, and its new name takes the row of the old one. -/
def mergedWith (target oldTarget newTarget : String) (mapping : IrcCaseMapping) :
    Option String :=
  if mapping.equals oldTarget newTarget then none
  else if mapping.equals oldTarget target then some newTarget
  else if mapping.equals newTarget target then some oldTarget
  else none

section Renames

variable {mapping : IrcCaseMapping}

theorem equals_comm (left right : String) :
    mapping.equals left right = mapping.equals right left := by
  rw [IrcCaseMapping.equals, IrcCaseMapping.equals, Bool.beq_comm]

theorem equals_of_same {left right : String} (same : mapping.equals left right = true)
    (other : String) : mapping.equals left other = mapping.equals right other := by
  rw [equals_comm left, equals_comm right, equals_congr same]

/-- A row that is not a target's may change or go. -/
theorem timeOfTarget_split (front back : List PlaybackTime) {row : PlaybackTime}
    {target : String} (other : mapping.equals row.target target = false) :
    timeOfTarget (front ++ row :: back) target mapping =
      timeOfTarget (front ++ back) target mapping := by
  rw [timeOfTarget_append, timeOfTarget_append, timeOfTarget_cons, other]
  rfl

/-- The first row of a target has its time. -/
theorem timeOfTarget_first {front : List PlaybackTime} (back : List PlaybackTime)
    {row : PlaybackTime} {target : String} (before : timeOfTarget front target mapping = none)
    (own : mapping.equals row.target target = true) :
    timeOfTarget (front ++ row :: back) target mapping = some row.time := by
  rw [timeOfTarget_append, before, Option.none_or, timeOfTarget_cons, if_pos own]

/-- A row that is renamed in place keeps the times of all targets. -/
theorem timeOfTarget_renamed (front back : List PlaybackTime) {row : PlaybackTime} {name : String}
    (same : mapping.equals row.target name = true) (target : String) :
    timeOfTarget (front ++ { row with target := name } :: back) target mapping =
      timeOfTarget (front ++ row :: back) target mapping := by
  rw [timeOfTarget_append, timeOfTarget_append, timeOfTarget_cons, timeOfTarget_cons,
    equals_of_same same]

/-- Where a moved time lands: on the row of the new name, which takes it or keeps its own, or in
a row of its own. The other targets keep their times. -/
theorem timeOfTarget_landed (replaces : Int → Int → Bool) (others : List PlaybackTime)
    (newTarget : String) (moved : Int) (target : String) :
    timeOfTarget (landedRows replaces others newTarget moved mapping) target mapping =
          timeOfTarget others target mapping ∧
        (mapping.equals newTarget target = true → timeOfTarget others target mapping ≠ none) ∨
      mapping.equals newTarget target = true ∧
        timeOfTarget (landedRows replaces others newTarget moved mapping) target mapping =
          some moved := by
  rw [landedRows]
  cases place : playbackIndexOfTarget others newTarget mapping with
  | none =>
      have absent := index_eq_none.mp place
      dsimp only
      rw [timeOfTarget_append, timeOfTarget_cons, timeOfTarget_nil]
      by_cases same : mapping.equals newTarget target = true
      · rw [timeOfTarget_congr same] at absent
        exact .inr ⟨same, by rw [absent, if_pos same, Option.none_or]⟩
      · exact .inl ⟨by rw [if_neg same, Option.or_none], fun named => absurd named same⟩
  | some index =>
      obtain ⟨front, row, back, rfl, rfl, before, own⟩ := index_split place
      dsimp only
      rw [modify_split]
      by_cases same : mapping.equals newTarget target = true
      · rw [timeOfTarget_congr same] at before
        rw [equals_congr same] at own
        rw [timeOfTarget_first back before own]
        split
        · exact .inr ⟨same, timeOfTarget_first back before own⟩
        · exact .inl ⟨timeOfTarget_first back before own, fun _ => Option.some_ne_none _⟩
      · have other : mapping.equals row.target target = false := by
          rw [equals_of_same own]
          exact Bool.eq_false_iff.mpr same
        refine .inl ⟨?_, fun named => absurd named same⟩
        rw [timeOfTarget_split front back other]
        split
        · exact timeOfTarget_split front back other
        · exact timeOfTarget_split front back other

/-- After a rename a target has its time under the name it goes by, or the time of the name that
it was merged with. -/
theorem timeOfTarget_rekeyed (replaces : Int → Int → Bool) (rows : List PlaybackTime)
    (oldTarget newTarget target : String) :
    timeOfTarget (rekeyedRows replaces rows oldTarget newTarget mapping)
          (followed target oldTarget newTarget mapping) mapping =
        timeOfTarget rows target mapping ∨
      ∃ other time, mergedWith target oldTarget newTarget mapping = some other ∧
        timeOfTarget rows other mapping = some time ∧
        timeOfTarget (rekeyedRows replaces rows oldTarget newTarget mapping)
          (followed target oldTarget newTarget mapping) mapping = some time := by
  by_cases spelled : mapping.equals oldTarget newTarget = true
  · -- Only the spelling changes.
    have names : mapping.equals (followed target oldTarget newTarget mapping) target = true := by
      rw [followed]
      split
      · rename_i same
        rw [← equals_of_same spelled]
        exact same
      · exact beq_self_eq_true _
    left
    rw [timeOfTarget_congr names, rekeyedRows]
    cases place : playbackIndexOfTarget rows oldTarget mapping with
    | none => rfl
    | some index =>
        obtain ⟨front, row, back, rfl, rfl, -, own⟩ := index_split place
        dsimp only
        rw [if_pos spelled, modify_split]
        exact timeOfTarget_renamed front back (by rw [← equals_congr spelled]; exact own) target
  · rw [rekeyedRows, mergedWith, if_neg spelled]
    cases place : playbackIndexOfTarget rows oldTarget mapping with
    | none =>
        have absent := index_eq_none.mp place
        rw [followed]
        dsimp only
        by_cases same : mapping.equals oldTarget target = true
        · rw [if_pos same, if_pos same, ← timeOfTarget_congr same, absent]
          cases held : timeOfTarget rows newTarget mapping with
          | none => exact .inl rfl
          | some time => exact .inr ⟨newTarget, time, rfl, held, rfl⟩
        · rw [if_neg same]
          exact .inl rfl
    | some index =>
        obtain ⟨front, row, back, rfl, rfl, before, own⟩ := index_split place
        have moved : (front ++ row :: back)[front.length]? = some row := by simp
        dsimp only
        rw [if_neg spelled, moved, Option.map_some, Option.getD_some, eraseIdx_split]
        have first := timeOfTarget_first back before own
        rcases timeOfTarget_landed replaces (front ++ back) newTarget row.time
          (followed target oldTarget newTarget mapping) with ⟨kept, standing⟩ | ⟨named, taken⟩
        · rw [kept]
          by_cases same : mapping.equals oldTarget target = true
          · rw [followed, if_pos same] at standing ⊢
            have apart : mapping.equals row.target newTarget = false := by
              rw [equals_of_same own]
              exact Bool.eq_false_iff.mpr spelled
            obtain ⟨time, found⟩ :=
              Option.ne_none_iff_exists'.mp (standing (beq_self_eq_true _))
            refine .inr ⟨newTarget, time, if_pos same, ?_, found⟩
            rw [timeOfTarget_split front back apart]
            exact found
          · have apart : mapping.equals row.target target = false := by
              rw [equals_of_same own]
              exact Bool.eq_false_iff.mpr same
            rw [followed, if_neg same, timeOfTarget_split front back apart]
            exact .inl rfl
        · rw [taken]
          by_cases same : mapping.equals oldTarget target = true
          · rw [← timeOfTarget_congr same, first]
            exact .inl rfl
          · rw [followed, if_neg same] at named
            rw [if_neg same, if_pos named]
            exact .inr ⟨oldTarget, row.time, rfl, first, rfl⟩

end Renames

/-! ## Rows of the store -/

namespace PlaybackTimeStore

variable (store : PlaybackTimeStore) {networkId : String}

theorem playbackSave_cache : (store.playbackSave networkId).cache = store.cache := by
  rw [playbackSave]
  split
  · rfl
  split
  · rfl
  · rfl

theorem playbackSave_other {other : String} (apart : other ≠ networkId) :
    (store.playbackSave networkId).saved[other]? = store.saved[other]? := by
  rw [playbackSave]
  split
  · rfl
  split
  · exact erase_other _ apart
  · exact insert_other _ _ apart

theorem playbackEntries_keep (named : networkId ≠ "") (rows : List PlaybackEntry) :
    (store.keep networkId rows).playbackEntries networkId = rows := by
  rw [playbackEntries, if_neg named, keep, playbackSave_cache]
  show (((store.cache.insert networkId rows)[networkId]?).getD _) = rows
  rw [found_insert, Option.getD_some]

theorem playbackEntries_keep_other {other : String} (apart : other ≠ networkId)
    (rows : List PlaybackEntry) :
    (store.keep networkId rows).playbackEntries other = store.playbackEntries other := by
  rw [playbackEntries, playbackEntries, keep, playbackSave_cache, playbackSave_other _ apart]
  show (if other = "" then [] else (((store.cache.insert networkId rows)[other]?).getD _)) = _
  rw [insert_other _ _ apart]

/-- A note changes the rows of its own network. -/
theorem playbackEntries_note {target : String} {time : Instant} (mapping : IrcCaseMapping)
    (named : networkId ≠ "") (known : target ≠ "") (dated : time ≠ zeroTime) :
    (store.note networkId target time mapping).1.playbackEntries networkId =
      (notedRows (store.playbackEntries networkId) target (timestampMillis time) mapping).getD
        (store.playbackEntries networkId) := by
  rw [note, if_neg (by simp [named, known, dated])]
  split
  · rename_i unchanged
    rw [unchanged]
    rfl
  · rename_i rows noted
    rw [noted]
    exact store.playbackEntries_keep named rows

theorem playbackEntries_note_undated (target : String) (mapping : IrcCaseMapping) :
    (store.note networkId target zeroTime mapping).1 = store := by
  rw [note, if_pos (.inr (.inr rfl))]

theorem playbackEntries_note_other {other : String} (target : String) (time : Instant)
    (mapping : IrcCaseMapping) (apart : other ≠ networkId) :
    (store.note networkId target time mapping).1.playbackEntries other =
      store.playbackEntries other := by
  rw [note]
  split
  · rfl
  split
  · rfl
  · exact store.playbackEntries_keep_other apart _

/-- A rename changes the rows as it changes their list. -/
theorem playbackEntries_rekey {oldTarget newTarget : String} (mapping : IrcCaseMapping)
    (named : networkId ≠ "") (known : oldTarget ≠ "" ∧ newTarget ≠ "") :
    (store.rekey networkId oldTarget newTarget mapping).1.playbackEntries networkId =
      rekeyedRows newer (store.playbackEntries networkId) oldTarget newTarget mapping := by
  rw [rekey, if_neg (by simp [named, known.1, known.2])]
  dsimp only
  cases place : playbackIndexOfTarget (store.playbackEntries networkId) oldTarget mapping with
  | none =>
      rw [rekeyedRows, place]
      rfl
  | some index =>
      obtain ⟨front, row, back, shape, rfl, -, -⟩ := index_split place
      have found : (store.playbackEntries networkId)[front.length]? = some row := by
        rw [shape]
        simp
      rw [Option.bind_some, found]
      dsimp only
      split
      · -- The name is the same to the letter, so the rows are.
        rename_i spelled
        rw [Bool.and_eq_true, beq_iff_eq] at spelled
        rw [rekeyedRows, place]
        dsimp only
        rw [if_pos spelled.1, ← spelled.2, shape, modify_split]
      · exact store.playbackEntries_keep named _

end PlaybackTimeStore

end Omairc.Playback
