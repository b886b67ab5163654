import Omairc.Model.TextEdit
import Omairc.Model.Transcript
import Omairc.Semantics.Fenwick

/-!
# A transcript in use

The heights of the rows, kept in a tree of sums, the selection, and what is copied of it. Whatever
is done to a transcript, the tree agrees with a plain list of heights, and the selection stays
between characters of rows that there are.
-/

namespace Omairc.Rows

open Omairc.Text
open Omairc.Irc
open Omairc.Model

/-- A place in a row's text. -/
structure Pos where
  row : Nat
  offset : Nat

structure Selection where
  anchor : Pos
  focus : Pos

/-- The rows on screen, their heights and which of them were measured, the scroll anchor and the
selection. -/
structure Transcript where
  rows : List Row := []
  heights : List Int := Fenwick.new 0
  measured : List Bool := []
  estimateHeight : Int
  scroll : ScrollAnchor := ⟨0, 0, true⟩
  selection : Option Selection := none

/-- The text of a row that is selected and copied. -/
def rowPlain (row : Row) : String :=
  match row.kind with
  | .daySeparator => row.separatorText.getD row.body.plain
  | .event => row.eventText.getD row.body.plain
  | .message | .status | .whois | .unreadMark => row.body.plain

def plainLen (row : Row) : Nat := byteLength (rowPlain row)

/-- A position moved to the start of its grapheme, in the last row when there is no such row. -/
def snapPos (unicode : Unicode) (rows : List Row) (pos : Pos) : Pos :=
  match rows[pos.row]? with
  | none => ⟨rows.length - 1, 0⟩
  | some row => ⟨pos.row, snapGrapheme unicode (rowPlain row) (min pos.offset (plainLen row))⟩

def orderedPositions (selection : Selection) : Pos × Pos :=
  if selection.anchor.row < selection.focus.row ∨
      selection.anchor.row = selection.focus.row ∧
        selection.anchor.offset ≤ selection.focus.offset then
    (selection.anchor, selection.focus)
  else (selection.focus, selection.anchor)

/-- The text in a range, or nothing when it is cut inside a character. -/
def slicePlain (text : String) (range : Span) : String :=
  if range.start < range.stop ∧ isCharBoundary text.toList range.start ∧
      isCharBoundary text.toList range.stop then
    String.ofList (range.text text.toList)
  else ""

/-- The line of a row that is copied, around its selected text. -/
def copiedLine (row : Row) (selected : String) : Option String :=
  let time := row.time.getD "--:--"
  let author := row.author.getD ""
  match row.kind with
  | .message =>
      if row.action then some ("[" ++ time ++ "] * " ++ author ++ " " ++ selected)
      else some ("[" ++ time ++ "] <" ++ author ++ "> " ++ selected)
  | .event => some ("* " ++ selected)
  | .daySeparator => some selected
  | .status => some ("[" ++ time ++ "] " ++ (row.status.elim "" (·.label)) ++ " " ++ selected)
  | .whois => some selected
  | .unreadMark => none

namespace Transcript

def new (estimateHeight : Int) : Transcript := { estimateHeight := max estimateHeight 1 }

/-- The tree of as many rows, each of the estimated height. -/
def estimated (estimateHeight : Int) (count : Nat) : List Int :=
  (List.range count).foldl (fun tree row => Fenwick.add tree row estimateHeight) (Fenwick.new count)

def setRows (transcript : Transcript) (rows : List Row) : Transcript :=
  { transcript with
    rows
    measured := List.replicate rows.length false
    heights := estimated transcript.estimateHeight rows.length
    selection := none
    scroll := ⟨rows.length - 1, 0, true⟩ }

def clearSelection (transcript : Transcript) : Transcript := { transcript with selection := none }

/-- The height of a row, as the tree has it. -/
def rowHeight (transcript : Transcript) (row : Nat) : Int :=
  if transcript.rows.length ≤ row then transcript.estimateHeight
  else if row = 0 then Fenwick.prefixSum transcript.heights 0
  else Fenwick.prefixSum transcript.heights row - Fenwick.prefixSum transcript.heights (row - 1)

def setMeasured (transcript : Transcript) (row : Nat) (height : Int) : Transcript :=
  if transcript.rows.length ≤ row then transcript
  else
    let height := max height 1
    let old :=
      if transcript.measured[row]? = some true then transcript.rowHeight row
      else transcript.estimateHeight
    { transcript with
      heights := Fenwick.add transcript.heights row (height - old)
      measured := transcript.measured.set row true }

def invalidateAll (transcript : Transcript) : Transcript :=
  { transcript with
    measured := List.replicate transcript.measured.length false
    heights := estimated transcript.estimateHeight transcript.rows.length }

/-- Other rows in the place of these, under the same scroll and selection where they still apply. -/
def replaceRows (unicode : Unicode) (transcript : Transcript) (rows : List Row) : Transcript :=
  let selection :=
    (transcript.selection.filter fun selection =>
      selection.anchor.row < rows.length && selection.focus.row < rows.length).map fun selection =>
        (⟨snapPos unicode rows selection.anchor, snapPos unicode rows selection.focus⟩ : Selection)
  let scroll : ScrollAnchor :=
    if rows = [] then ⟨0, 0, true⟩
    else if transcript.scroll.pinnedToBottom then ⟨rows.length - 1, 0, true⟩
    else ⟨min transcript.scroll.row (rows.length - 1), transcript.scroll.offsetPx, false⟩
  { transcript with
    rows
    measured := List.replicate rows.length false
    heights := estimated transcript.estimateHeight rows.length
    selection
    scroll }

def setPinnedToBottom (transcript : Transcript) (pinned : Bool) : Transcript :=
  if pinned ∧ transcript.rows ≠ [] then
    { transcript with scroll := ⟨transcript.rows.length - 1, 0, true⟩ }
  else { transcript with scroll := { transcript.scroll with pinnedToBottom := pinned } }

def setScrollAnchor (transcript : Transcript) (row : Nat) (offsetPx : Int) : Transcript :=
  { transcript with scroll := ⟨min row (transcript.rows.length - 1), offsetPx, false⟩ }

/-- Begin a selection. -/
def begin_ (unicode : Unicode) (transcript : Transcript) (pos : Pos) : Transcript :=
  let pos := snapPos unicode transcript.rows pos
  { transcript with selection := some ⟨pos, pos⟩ }

def extend (unicode : Unicode) (transcript : Transcript) (pos : Pos) : Transcript :=
  let pos := snapPos unicode transcript.rows pos
  match transcript.selection with
  | some selection => { transcript with selection := some { selection with focus := pos } }
  | none => transcript.begin_ unicode pos

def selectWord (unicode : Unicode) (transcript : Transcript) (pos : Pos) : Transcript :=
  let pos := snapPos unicode transcript.rows pos
  match transcript.rows[pos.row]? with
  | none => transcript
  | some row =>
      let range := wordBounds unicode (rowPlain row) pos.offset
      { transcript with selection := some ⟨⟨pos.row, range.start⟩, ⟨pos.row, range.stop⟩⟩ }

def selectRow (transcript : Transcript) (row : Nat) : Transcript :=
  match transcript.rows[row]? with
  | none => transcript
  | some held => { transcript with selection := some ⟨⟨row, 0⟩, ⟨row, plainLen held⟩⟩ }

/-- What is selected of a row. There is no answer when a row is looked up that there is not. -/
def rangeForRow (transcript : Transcript) (row : Nat) : Option (Option Span) :=
  match transcript.selection with
  | none => some none
  | some selection =>
      let (start, stop) := orderedPositions selection
      if row < start.row ∨ stop.row < row then some none
      else
        let rowStart := if row = start.row then start.offset else 0
        let rowEnd :=
          if row = stop.row then some stop.offset else transcript.rows[row]?.map plainLen
        rowEnd.map fun rowEnd => if rowEnd ≤ rowStart then none else some ⟨rowStart, rowEnd⟩

/-- What is copied of a row. -/
def copyRow (transcript : Transcript) (row : Nat) : Option (Option String) :=
  transcript.rows[row]?.bind fun held =>
    (transcript.rangeForRow row).map fun range =>
      range.bind fun range => copiedLine held (slicePlain (rowPlain held) range)

/-- The selected text. There is no answer when a row is looked up that there is not. -/
def copyText (transcript : Transcript) : Option String :=
  match transcript.selection with
  | none => some ""
  | some selection =>
      let (start, stop) := orderedPositions selection
      if start.row = stop.row ∧ start.offset = stop.offset then some ""
      else if start.row = stop.row then
        transcript.rows[start.row]?.map fun row =>
          slicePlain (rowPlain row) ⟨start.offset, stop.offset⟩
      else
        ((List.range' start.row (stop.row + 1 - start.row)).mapM transcript.copyRow).map
          fun lines => joinTexts "\n" (lines.filterMap id)

end Transcript

/-! ## Events -/

/-- What is done to a transcript. -/
inductive TranscriptEvent
  | rowsSet (rows : List Row)
  | rowsReplaced (rows : List Row)
  | measured (row : Nat) (height : Int)
  | invalidated
  | pinned (toBottom : Bool)
  | anchored (row : Nat) (offsetPx : Int)
  | cleared
  | began (pos : Pos)
  | extended (pos : Pos)
  | wordSelected (pos : Pos)
  | rowSelected (row : Nat)

def Transcript.step (unicode : Unicode) (transcript : Transcript) : TranscriptEvent → Transcript
  | .rowsSet rows => transcript.setRows rows
  | .rowsReplaced rows => transcript.replaceRows unicode rows
  | .measured row height => transcript.setMeasured row height
  | .invalidated => transcript.invalidateAll
  | .pinned toBottom => transcript.setPinnedToBottom toBottom
  | .anchored row offsetPx => transcript.setScrollAnchor row offsetPx
  | .cleared => transcript.clearSelection
  | .began pos => transcript.begin_ unicode pos
  | .extended pos => transcript.extend unicode pos
  | .wordSelected pos => transcript.selectWord unicode pos
  | .rowSelected row => transcript.selectRow row

/-- A transcript after events. -/
def Transcript.run (unicode : Unicode) (estimateHeight : Int) (events : List TranscriptEvent) :
    Transcript :=
  events.foldl (Transcript.step unicode) (.new estimateHeight)

/-! ## Heights -/

/-- The heights without a tree: how many rows there are, and which heights were measured. -/
structure PlainHeights where
  count : Nat := 0
  measured : Nat → Option Int := fun _ => none

namespace PlainHeights

def step (plain : PlainHeights) : TranscriptEvent → PlainHeights
  | .rowsSet rows => { count := rows.length }
  | .rowsReplaced rows => { count := rows.length }
  | .measured row height =>
      if row < plain.count then
        { plain with measured := Function.update plain.measured row (some (max height 1)) }
      else plain
  | .invalidated => { count := plain.count }
  | _ => plain

/-- The last height measured, or the estimate. -/
def height (plain : PlainHeights) (estimateHeight : Int) (row : Nat) : Int :=
  (plain.measured row).getD estimateHeight

end PlainHeights

/-- The heights after events. -/
def plainHeights (events : List TranscriptEvent) : PlainHeights :=
  events.foldl PlainHeights.step {}

/-- The tree and the measured flags stand for the plain heights. -/
structure HeightsAgree (transcript : Transcript) (plain : PlainHeights) : Prop where
  count : plain.count = transcript.rows.length
  measuredLength : transcript.measured.length = transcript.rows.length
  flags : ∀ row < transcript.rows.length,
    transcript.measured[row]? = some (plain.measured row).isSome
  heightsLength : transcript.heights.length = transcript.rows.length + 1
  heights : Fenwick.Represents transcript.heights (plain.height transcript.estimateHeight)

/-- A tree of estimated heights. -/
theorem estimated_spec (estimateHeight : Int) (count : Nat) :
    (Transcript.estimated estimateHeight count).length = count + 1 ∧
      Fenwick.Represents (Transcript.estimated estimateHeight count) fun _ => estimateHeight := by
  have built : ∀ done ≤ count,
      ((List.range done).foldl (fun tree row => Fenwick.add tree row estimateHeight)
        (Fenwick.new count)).length = count + 1 ∧
      Fenwick.Represents ((List.range done).foldl
        (fun tree row => Fenwick.add tree row estimateHeight) (Fenwick.new count))
          fun place => if place < done then estimateHeight else 0 := by
    intro done within
    induction done with
    | zero =>
        refine ⟨List.length_replicate, ?_⟩
        exact (Fenwick.represents_new count).congr fun place _ => (if_neg (Nat.not_lt_zero _)).symm
    | succ done inductionHypothesis =>
        obtain ⟨length, held⟩ := inductionHypothesis (by omega)
        rw [List.range_succ, List.foldl_append, List.foldl_cons, List.foldl_nil]
        refine ⟨by rw [Fenwick.add_length, length], ?_⟩
        refine (Fenwick.represents_add held done estimateHeight).congr fun place _ => ?_
        by_cases same : place = done
        · subst same
          rw [Function.update_self, if_neg (Nat.lt_irrefl _), if_pos (Nat.lt_succ_self _), zero_add]
        · rw [Function.update_of_ne same]
          exact if_congr (by omega) rfl rfl
  obtain ⟨length, held⟩ := built count (Nat.le_refl count)
  refine ⟨length, held.congr fun place inside => ?_⟩
  refine if_pos ?_
  have whole : place + 1 < count + 1 := length ▸ inside
  omega

namespace HeightsAgree

variable {transcript : Transcript} {plain : PlainHeights}

/-- The tree's height of a row is the plain one. -/
theorem rowHeight (agrees : HeightsAgree transcript plain) {row : Nat}
    (inside : row < transcript.rows.length) :
    transcript.rowHeight row = plain.height transcript.estimateHeight row := by
  have length := agrees.heightsLength
  rw [Transcript.rowHeight, if_neg (by omega)]
  cases row with
  | zero =>
      rw [if_pos rfl, Fenwick.prefixSum_eq agrees.heights (by omega), Finset.sum_range_one]
  | succ row =>
      rw [if_neg (Nat.succ_ne_zero row), Nat.add_sub_cancel,
        Fenwick.prefixSum_eq agrees.heights (by omega),
        Fenwick.prefixSum_eq agrees.heights (by omega), Finset.sum_range_succ _ (row + 1)]
      omega

/-- Fresh rows have the estimated height. -/
theorem fresh {count : Nat} (rows : transcript.rows.length = count)
    (measured : transcript.measured = List.replicate count false)
    (heights : transcript.heights = Transcript.estimated transcript.estimateHeight count) :
    HeightsAgree transcript { count } := by
  obtain ⟨length, held⟩ := estimated_spec transcript.estimateHeight count
  refine ⟨rows.symm, ?_, ?_, ?_, ?_⟩
  · rw [measured, List.length_replicate, rows]
  · intro row inside
    rw [measured, List.getElem?_replicate, if_pos (by omega)]
    rfl
  · rw [heights, length, rows]
  · rw [heights]
    exact held

/-- What touches neither rows nor heights. -/
theorem same (agrees : HeightsAgree transcript plain) {next : Transcript}
    (rows : next.rows = transcript.rows) (measured : next.measured = transcript.measured)
    (heights : next.heights = transcript.heights)
    (estimate : next.estimateHeight = transcript.estimateHeight) : HeightsAgree next plain := by
  obtain ⟨count, measuredLength, flags, heightsLength, held⟩ := agrees
  constructor
  · rw [rows, count]
  · rw [rows, measured, measuredLength]
  · rw [rows, measured]
    exact flags
  · rw [rows, heights, heightsLength]
  · rw [heights, estimate]
    exact held

/-- A row is measured. -/
theorem setMeasured (agrees : HeightsAgree transcript plain) (row : Nat) (height : Int) :
    HeightsAgree (transcript.setMeasured row height) (plain.step (.measured row height)) := by
  rw [Transcript.setMeasured, PlainHeights.step]
  have count := agrees.count
  by_cases outside : transcript.rows.length ≤ row
  · have uncounted : ¬ row < plain.count := by omega
    rw [if_pos outside, if_neg uncounted]
    exact agrees
  have inside : row < transcript.rows.length := by omega
  have counted : row < plain.count := by omega
  rw [if_neg outside, if_pos counted]
  have old : (if transcript.measured[row]? = some true then transcript.rowHeight row
      else transcript.estimateHeight) = plain.height transcript.estimateHeight row := by
    rw [agrees.flags row inside, agrees.rowHeight inside, PlainHeights.height]
    cases plain.measured row with
    | none => rfl
    | some height => rfl
  dsimp only
  rw [old]
  refine ⟨agrees.count, ?_, ?_, ?_, ?_⟩
  · rw [List.length_set, agrees.measuredLength]
  · intro other within
    dsimp only
    rw [List.getElem?_set]
    by_cases here : row = other
    · subst here
      rw [if_pos rfl, if_pos (agrees.measuredLength ▸ inside), Function.update_self]
      rfl
    · rw [if_neg here, Function.update_of_ne (Ne.symm here)]
      exact agrees.flags other within
  · rw [Fenwick.add_length, agrees.heightsLength]
  · refine (Fenwick.represents_add agrees.heights row _).congr fun place _ => ?_
    unfold PlainHeights.height
    dsimp only
    by_cases here : place = row
    · subst here
      rw [Function.update_self, Function.update_self, Option.getD_some]
      omega
    · rw [Function.update_of_ne here, Function.update_of_ne here]

/-- One event. -/
theorem step (unicode : Unicode) (agrees : HeightsAgree transcript plain)
    (event : TranscriptEvent) :
    HeightsAgree (transcript.step unicode event) (plain.step event) ∧
      (transcript.step unicode event).estimateHeight = transcript.estimateHeight := by
  cases event with
  | rowsSet rows => exact ⟨fresh rfl rfl rfl, rfl⟩
  | rowsReplaced rows => exact ⟨fresh rfl rfl rfl, rfl⟩
  | measured row height =>
      refine ⟨agrees.setMeasured row height, ?_⟩
      rw [Transcript.step, Transcript.setMeasured]
      split <;> rfl
  | invalidated =>
      refine ⟨fresh agrees.count.symm ?_ ?_, rfl⟩
      · rw [Transcript.step, Transcript.invalidateAll, agrees.measuredLength, agrees.count]
      · rw [Transcript.step, Transcript.invalidateAll, agrees.count]
  | pinned toBottom =>
      rw [Transcript.step, Transcript.setPinnedToBottom]
      split
      · exact ⟨agrees.same rfl rfl rfl rfl, rfl⟩
      · exact ⟨agrees.same rfl rfl rfl rfl, rfl⟩
  | anchored row offsetPx => exact ⟨agrees.same rfl rfl rfl rfl, rfl⟩
  | cleared => exact ⟨agrees.same rfl rfl rfl rfl, rfl⟩
  | began pos => exact ⟨agrees.same rfl rfl rfl rfl, rfl⟩
  | extended pos =>
      rw [Transcript.step, Transcript.extend]
      cases transcript.selection with
      | none => exact ⟨agrees.same rfl rfl rfl rfl, rfl⟩
      | some selection => exact ⟨agrees.same rfl rfl rfl rfl, rfl⟩
  | wordSelected pos =>
      rw [Transcript.step, Transcript.selectWord]
      cases transcript.rows[(snapPos unicode transcript.rows pos).row]? with
      | none => exact ⟨agrees, rfl⟩
      | some row => exact ⟨agrees.same rfl rfl rfl rfl, rfl⟩
  | rowSelected row =>
      rw [Transcript.step, Transcript.selectRow]
      cases transcript.rows[row]? with
      | none => exact ⟨agrees, rfl⟩
      | some held => exact ⟨agrees.same rfl rfl rfl rfl, rfl⟩

/-- Events, one after another. -/
theorem foldl (unicode : Unicode) (agrees : HeightsAgree transcript plain)
    (events : List TranscriptEvent) :
    HeightsAgree (events.foldl (Transcript.step unicode) transcript)
        (events.foldl PlainHeights.step plain) ∧
      (events.foldl (Transcript.step unicode) transcript).estimateHeight =
        transcript.estimateHeight := by
  induction events generalizing transcript plain with
  | nil => exact ⟨agrees, rfl⟩
  | cons event rest inductionHypothesis =>
      obtain ⟨next, kept⟩ := agrees.step unicode event
      obtain ⟨last, same⟩ := inductionHypothesis next
      exact ⟨last, same.trans kept⟩

end HeightsAgree

/-- In every run the tree of heights agrees with the plain heights: a row is as high as it was last
measured, or as estimated, and a prefix sum of the tree is the sum of the heights up to a row. -/
theorem heights_refine (unicode : Unicode) (estimateHeight : Int) (events : List TranscriptEvent) :
    ∀ row < (Transcript.run unicode estimateHeight events).rows.length,
      (Transcript.run unicode estimateHeight events).rowHeight row =
          (plainHeights events).height (max estimateHeight 1) row ∧
        Fenwick.prefixSum (Transcript.run unicode estimateHeight events).heights row =
          ∑ place ∈ Finset.range (row + 1),
            (plainHeights events).height (max estimateHeight 1) place ∧
        (Transcript.run unicode estimateHeight events).measured[row]? =
          some ((plainHeights events).measured row).isSome := by
  have blank : HeightsAgree (.new estimateHeight) {} := HeightsAgree.fresh rfl rfl rfl
  obtain ⟨agrees, estimate⟩ := blank.foldl unicode events
  intro row inside
  refine ⟨?_, ?_, agrees.flags row inside⟩
  · rw [Transcript.run, agrees.rowHeight inside, estimate]
    rfl
  · have length := agrees.heightsLength
    have within : row < (events.foldl (Transcript.step unicode) (.new estimateHeight)).rows.length :=
      inside
    rw [Transcript.run, Fenwick.prefixSum_eq agrees.heights (by omega), estimate]
    rfl

section Witness

/-- Tables under which every character is a grapheme. -/
private def singleCharacters : Unicode where
  isAlphanumeric := Char.isAlphanum
  isBoundary _ _ := true
  prevBoundary _ _ := none
  nextBoundary _ _ := none
  prev_before found := by cases found
  next_behind found := by cases found

theorem heights_refine_measured :
    (Transcript.run singleCharacters 24
      [.rowsSet [rowFromWhois 1 "hi"], .measured 0 40]).rowHeight 0 = 40 :=
  (heights_refine singleCharacters 24 [.rowsSet [rowFromWhois 1 "hi"], .measured 0 40] 0
    Nat.zero_lt_one).1

end Witness

/-! ## Selections -/

/-- A position between two characters of a row, or the first one when there are no rows. -/
def Placed (rows : List Row) (pos : Pos) : Prop :=
  rows = [] ∧ pos = ⟨0, 0⟩ ∨ ∃ row, rows[pos.row]? = some row ∧ IsCut (rowPlain row) pos.offset

theorem placed_snapPos (unicode : Unicode) (rows : List Row) (pos : Pos) :
    Placed rows (snapPos unicode rows pos) := by
  unfold snapPos
  cases found : rows[pos.row]? with
  | some row => exact .inr ⟨row, found, (snapGrapheme_spec unicode _ _).1⟩
  | none =>
      cases rows with
      | nil => exact .inl ⟨rfl, rfl⟩
      | cons first rest =>
          obtain ⟨row, last⟩ : ∃ row, (first :: rest)[rest.length]? = some row :=
            ⟨_, List.getElem?_eq_getElem (by rw [List.length_cons]; omega)⟩
          exact .inr ⟨row, last, isCut_zero _⟩

/-- A transcript whose scroll anchor and selection are at rows that there are. -/
structure InRange (transcript : Transcript) : Prop where
  scroll : transcript.scroll.row ≤ transcript.rows.length - 1
  pinned : transcript.scroll.pinnedToBottom = true →
    transcript.scroll.row = transcript.rows.length - 1
  selection : ∀ selection ∈ transcript.selection,
    Placed transcript.rows selection.anchor ∧ Placed transcript.rows selection.focus

namespace InRange

variable {transcript : Transcript} (unicode : Unicode)

theorem replaceRows (rows : List Row) : InRange (transcript.replaceRows unicode rows) := by
  unfold Transcript.replaceRows
  dsimp only
  refine ⟨?_, ?_, ?_⟩
  · dsimp only
    split
    · exact Nat.zero_le _
    split
    · exact Nat.le_refl _
    · exact Nat.min_le_right _ _
  · dsimp only
    split
    · rename_i none_
      intro _
      rw [none_]
      rfl
    split
    · exact fun _ => rfl
    · exact fun pinned => by cases pinned
  · intro selection held
    obtain ⟨before, -, rfl⟩ := Option.map_eq_some_iff.mp held
    exact ⟨placed_snapPos unicode rows _, placed_snapPos unicode rows _⟩

theorem extend (inRange : InRange transcript) (pos : Pos) :
    InRange (transcript.extend unicode pos) := by
  have focus := placed_snapPos unicode transcript.rows pos
  unfold Transcript.extend
  dsimp only
  cases held : transcript.selection with
  | none =>
      refine ⟨inRange.scroll, inRange.pinned, fun selection same => ?_⟩
      cases same
      exact ⟨placed_snapPos unicode _ _, placed_snapPos unicode _ _⟩
  | some before =>
      refine ⟨inRange.scroll, inRange.pinned, fun selection same => ?_⟩
      cases same
      exact ⟨(inRange.selection before held).1, focus⟩

theorem selectWord (inRange : InRange transcript) (pos : Pos) :
    InRange (transcript.selectWord unicode pos) := by
  unfold Transcript.selectWord
  dsimp only
  cases found : transcript.rows[(snapPos unicode transcript.rows pos).row]? with
  | none => exact inRange
  | some row =>
      have cut := isCut_wordBounds unicode (rowPlain row)
        (snapPos unicode transcript.rows pos).offset
      refine ⟨inRange.scroll, inRange.pinned, fun selection same => ?_⟩
      cases same
      exact ⟨.inr ⟨row, found, cut.1⟩, .inr ⟨row, found, cut.2⟩⟩

theorem selectRow (inRange : InRange transcript) (row : Nat) :
    InRange (transcript.selectRow row) := by
  unfold Transcript.selectRow
  cases found : transcript.rows[row]? with
  | none => exact inRange
  | some held =>
      refine ⟨inRange.scroll, inRange.pinned, fun selection same => ?_⟩
      cases same
      exact ⟨.inr ⟨held, found, isCut_zero _⟩, .inr ⟨held, found, isCut_byteLength _⟩⟩

/-- One event. -/
theorem step (inRange : InRange transcript) (event : TranscriptEvent) :
    InRange (transcript.step unicode event) := by
  cases event with
  | rowsSet rows => exact ⟨Nat.le_refl _, fun _ => rfl, fun selection held => by cases held⟩
  | rowsReplaced rows => exact replaceRows unicode rows
  | measured row height =>
      rw [Transcript.step, Transcript.setMeasured]
      split
      · exact inRange
      · exact ⟨inRange.scroll, inRange.pinned, inRange.selection⟩
  | invalidated => exact ⟨inRange.scroll, inRange.pinned, inRange.selection⟩
  | pinned toBottom =>
      rw [Transcript.step, Transcript.setPinnedToBottom]
      split
      · exact ⟨Nat.le_refl _, fun _ => rfl, inRange.selection⟩
      · rename_i kept
        refine ⟨inRange.scroll, fun pinned => ?_, inRange.selection⟩
        have none_ : transcript.rows = [] := by
          by_contra full
          exact kept ⟨pinned, full⟩
        have bound := inRange.scroll
        rw [none_] at bound ⊢
        exact Nat.le_zero.mp bound
  | anchored row offsetPx =>
      exact ⟨Nat.min_le_right _ _, fun pinned => Bool.noConfusion pinned, inRange.selection⟩
  | cleared => exact ⟨inRange.scroll, inRange.pinned, fun selection held => by cases held⟩
  | began pos =>
      have placed := placed_snapPos unicode transcript.rows pos
      refine ⟨inRange.scroll, inRange.pinned, fun selection same => ?_⟩
      cases same
      exact ⟨placed, placed⟩
  | extended pos => exact inRange.extend unicode pos
  | wordSelected pos => exact inRange.selectWord unicode pos
  | rowSelected row => exact inRange.selectRow row

end InRange

theorem inRange_run (unicode : Unicode) (estimateHeight : Int) (events : List TranscriptEvent) :
    InRange (Transcript.run unicode estimateHeight events) := by
  unfold Transcript.run
  induction events using List.reverseRecOn with
  | nil => exact ⟨Nat.le_refl 0, fun _ => rfl, fun selection held => by cases held⟩
  | append_singleton front event inductionHypothesis =>
      rw [List.foldl_append]
      exact inductionHypothesis.step unicode event

/-- A position of a selection is in its row, between two of its characters. -/
theorem Placed.row {rows : List Row} {pos : Pos} (placed : Placed rows pos) (full : rows ≠ []) :
    ∃ row, rows[pos.row]? = some row ∧ IsCut (rowPlain row) pos.offset := by
  rcases placed with ⟨empty, -⟩ | found
  · exact absurd empty full
  · exact found

theorem Placed.first {pos : Pos} (placed : Placed [] pos) : pos = ⟨0, 0⟩ := by
  rcases placed with ⟨-, first⟩ | ⟨row, found, -⟩
  · exact first
  · cases found

/-- The ends of a selection, in order. -/
theorem orderedPositions_cases {transcript : Transcript} (inRange : InRange transcript)
    {selection : Selection} (held : transcript.selection = some selection) :
    ∃ start stop, orderedPositions selection = (start, stop) ∧
      Placed transcript.rows start ∧ Placed transcript.rows stop ∧
      (start.row < stop.row ∨ start.row = stop.row ∧ start.offset ≤ stop.offset) := by
  obtain ⟨anchor, focus⟩ := inRange.selection selection held
  unfold orderedPositions
  split
  · rename_i before
    exact ⟨_, _, rfl, anchor, focus, before⟩
  · exact ⟨_, _, rfl, focus, anchor, by omega⟩

/-- What is highlighted of a row is a piece of its text. -/
def Highlights (transcript : Transcript) (row : Nat) (range : Span) : Prop :=
  range.start < range.stop ∧ ∃ held, transcript.rows[row]? = some held ∧
    IsCut (rowPlain held) range.start ∧ IsCut (rowPlain held) range.stop

namespace InRange

variable {transcript : Transcript}

/-- Every row is answered for, and what is highlighted of it is a piece of its text. -/
theorem rangeForRow (inRange : InRange transcript) (row : Nat) :
    ∃ range, transcript.rangeForRow row = some range ∧
      ∀ span ∈ range, Highlights transcript row span := by
  unfold Transcript.rangeForRow
  cases held : transcript.selection with
  | none => exact ⟨none, rfl, fun span same => by cases same⟩
  | some selection =>
      obtain ⟨start, stop, same, starts, stops, order⟩ := orderedPositions_cases inRange held
      dsimp only
      rw [same]
      dsimp only
      by_cases outside : row < start.row ∨ stop.row < row
      · rw [if_pos outside]
        exact ⟨none, rfl, fun span same => by cases same⟩
      rw [if_neg outside]
      by_cases full : transcript.rows = []
      · rw [full] at starts stops
        obtain ⟨rfl, rfl⟩ : start = ⟨0, 0⟩ ∧ stop = ⟨0, 0⟩ := ⟨starts.first, stops.first⟩
        have zero : row = 0 := by
          dsimp only at outside
          omega
        rw [if_pos zero, if_pos zero]
        exact ⟨none, rfl, fun span same => by cases same⟩
      obtain ⟨first, foundFirst, cutFirst⟩ := starts.row full
      obtain ⟨last, foundLast, cutLast⟩ := stops.row full
      have inside : row < transcript.rows.length := by
        have := (List.getElem?_eq_some_iff.mp foundLast).1
        omega
      have own := List.getElem?_eq_getElem inside
      have begins : IsCut (rowPlain transcript.rows[row])
          (if row = start.row then start.offset else 0) := by
        split
        · rename_i here
          rw [← here, own, Option.some_inj] at foundFirst
          rw [foundFirst]
          exact cutFirst
        · exact isCut_zero _
      obtain ⟨rowEnd, answer, ends⟩ : ∃ rowEnd,
          (if row = stop.row then some stop.offset else transcript.rows[row]?.map plainLen) =
            some rowEnd ∧ IsCut (rowPlain transcript.rows[row]) rowEnd := by
        split
        · rename_i here
          rw [← here, own, Option.some_inj] at foundLast
          rw [foundLast]
          exact ⟨stop.offset, rfl, cutLast⟩
        · rw [own]
          exact ⟨_, rfl, isCut_byteLength _⟩
      rw [answer, Option.map_some]
      generalize (if row = start.row then start.offset else 0) = rowStart at begins ⊢
      refine ⟨_, rfl, fun span same => ?_⟩
      split at same
      · cases same
      · cases same
        exact ⟨by dsimp only; omega, _, own, begins, ends⟩

theorem slicePlain_highlight {text : String} {range : Span} (start : IsCut text range.start)
    (stop : IsCut text range.stop) (nonempty : range.start < range.stop) :
    slicePlain text range = String.ofList (range.text text.toList) :=
  if_pos ⟨nonempty, isCharBoundary_iff.mpr start, isCharBoundary_iff.mpr stop⟩

theorem mapM_isSome {α β : Type} {answer : α → Option β} {items : List α}
    (each : ∀ item ∈ items, (answer item).isSome = true) : (items.mapM answer).isSome = true := by
  induction items with
  | nil => rfl
  | cons item rest inductionHypothesis =>
      rw [List.forall_mem_cons] at each
      obtain ⟨first, own⟩ := Option.isSome_iff_exists.mp each.1
      obtain ⟨others, later⟩ := Option.isSome_iff_exists.mp (inductionHypothesis each.2)
      rw [List.mapM_cons, own, later]
      rfl

/-- Every copy is answered for. -/
theorem copyText (inRange : InRange transcript) : transcript.copyText.isSome = true := by
  unfold Transcript.copyText
  cases held : transcript.selection with
  | none => rfl
  | some selection =>
      obtain ⟨start, stop, same, starts, stops, order⟩ := orderedPositions_cases inRange held
      dsimp only
      rw [same]
      dsimp only
      split
      · rfl
      rename_i several
      have full : transcript.rows ≠ [] := by
        intro empty
        rw [empty] at starts stops
        rw [starts.first, stops.first] at several
        exact several ⟨rfl, rfl⟩
      obtain ⟨first, foundFirst, -⟩ := starts.row full
      obtain ⟨last, foundLast, -⟩ := stops.row full
      split
      · rw [foundFirst]
        rfl
      · rw [Option.isSome_map]
        refine mapM_isSome fun row listed => ?_
        rw [List.mem_range'_1] at listed
        have inside : row < transcript.rows.length := by
          have := (List.getElem?_eq_some_iff.mp foundLast).1
          omega
        obtain ⟨range, answer, -⟩ := inRange.rangeForRow row
        rw [Transcript.copyRow, List.getElem?_eq_getElem inside, Option.bind_some, answer]
        rfl

/-- A selection in one row copies exactly what is highlighted of it. -/
theorem copyText_row (inRange : InRange transcript) {selection : Selection}
    (held : transcript.selection = some selection)
    (one : selection.anchor.row = selection.focus.row)
    {row : Row} (found : transcript.rows[selection.anchor.row]? = some row) :
    transcript.copyText = some (((transcript.rangeForRow selection.anchor.row).join).elim ""
      fun span => String.ofList (span.text (rowPlain row).toList)) := by
  obtain ⟨range, answer, highlights⟩ := inRange.rangeForRow selection.anchor.row
  have same : ∃ start stop, orderedPositions selection = (start, stop) ∧
      start.row = selection.anchor.row ∧ stop.row = selection.anchor.row := by
    unfold orderedPositions
    split
    · exact ⟨_, _, rfl, rfl, one.symm⟩
    · exact ⟨_, _, rfl, one.symm, rfl⟩
  obtain ⟨start, stop, same, startRow, stopRow⟩ := same
  obtain ⟨first, last, again, -, -, order⟩ := orderedPositions_cases inRange held
  rw [same, Prod.mk.injEq] at again
  obtain ⟨rfl, rfl⟩ := again
  have ranged : transcript.rangeForRow selection.anchor.row =
      some (if stop.offset ≤ start.offset then none else some ⟨start.offset, stop.offset⟩) := by
    rw [Transcript.rangeForRow, held]
    dsimp only
    rw [same]
    dsimp only
    rw [if_neg (by omega), if_pos startRow.symm, if_pos stopRow.symm]
    rfl
  rw [ranged] at answer
  rw [ranged, Transcript.copyText, held]
  dsimp only
  rw [same]
  dsimp only
  by_cases empty : start.offset = stop.offset
  · rw [if_pos ⟨startRow.trans stopRow.symm, empty⟩, if_pos (by omega)]
    rfl
  · have several : ¬ stop.offset ≤ start.offset := by omega
    rw [if_neg several] at answer ⊢
    rw [if_neg fun both => empty both.2, if_pos (startRow.trans stopRow.symm), startRow, found,
      Option.map_some]
    cases Option.some_inj.mp answer
    obtain ⟨nonempty, other, own, cuts⟩ := highlights ⟨start.offset, stop.offset⟩ rfl
    rw [found, Option.some_inj] at own
    subst own
    rw [slicePlain_highlight cuts.1 cuts.2 nonempty]
    rfl

end InRange

end Omairc.Rows
