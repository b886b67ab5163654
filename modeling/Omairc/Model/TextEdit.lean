import Omairc.Semantics.Execution
import Omairc.Semantics.Timeline
import Omairc.Text.Pieces
import Omairc.Text.Strings

/-!
# Text editing

Graphemes and words of a text, the undo stack of a single-line field, and the edits of the field
that record on it. Between two loads the texts of the field are a timeline: undo goes back on it,
redo goes forward, a recorded edit is a new present, and a typed character that joins the open step
amends the present.
-/

namespace Omairc.Model

open Omairc.Text
open Omairc.Semantics

/-! ## Graphemes and words -/

/-- An offset between two characters of a text, or at one of its ends. -/
def IsCut (text : String) (offset : Nat) : Prop :=
  ∃ front back, text.toList = front ++ back ∧ byteSize front = offset

/-- Whether an offset is between two characters, or at an end. -/
def isCharBoundary : List Char → Nat → Bool
  | [], offset => offset == 0
  | char :: rest, offset =>
      offset == 0 || byteSize [char] ≤ offset && isCharBoundary rest (offset - byteSize [char])

/-- The Unicode tables of text editing: where a grapheme ends, and which characters are letters or
digits. -/
structure Unicode where
  isAlphanumeric : Char → Bool
  isBoundary : String → Nat → Bool
  prevBoundary : String → Nat → Option Nat
  nextBoundary : String → Nat → Option Nat
  /-- The boundary before an offset is before it, between two characters. -/
  prev_before : ∀ {text offset before}, prevBoundary text offset = some before →
    before < offset ∧ IsCut text before
  /-- The boundary behind an offset is behind it, between two characters. -/
  next_behind : ∀ {text offset behind}, nextBoundary text offset = some behind →
    offset < behind ∧ IsCut text behind

/-- The last offset up to one that is between two characters. -/
def floorBoundary (text : String) : Nat → Nat
  | 0 => 0
  | offset + 1 =>
      if isCharBoundary text.toList (offset + 1) then offset + 1 else floorBoundary text offset

/-- The start of the grapheme that an offset falls inside. -/
def snapGrapheme (unicode : Unicode) (text : String) (offset : Nat) : Nat :=
  let offset := floorBoundary text (min offset (byteLength text))
  if offset = 0 ∨ text = "" then 0
  else if byteLength text ≤ offset then byteLength text
  else if unicode.isBoundary text offset then offset
  else (unicode.prevBoundary text offset).getD 0

/-- The end of the grapheme that starts at an offset, or the text length. -/
def nextGraphemeEnd (unicode : Unicode) (text : String) (offset : Nat) : Nat :=
  (unicode.nextBoundary text offset).getD (byteLength text)

/-- Letters, digits, `_` and `-` make up a word. -/
def isWordChar (unicode : Unicode) (char : Char) : Bool :=
  unicode.isAlphanumeric char || char == '_' || char == '-'

/-- Whether a word character stands at an offset. -/
def isWordAt (unicode : Unicode) (text : String) (offset : Nat) : Bool :=
  (dropBytes offset text.toList).head?.any (isWordChar unicode)

theorem byteLength_eq (text : String) : byteLength text = byteSize text.toList :=
  congrArg List.length (utf8_eq_encode text)

theorem isCut_zero (text : String) : IsCut text 0 := ⟨[], text.toList, rfl, rfl⟩

theorem isCut_byteLength (text : String) : IsCut text (byteLength text) :=
  ⟨text.toList, [], (List.append_nil _).symm, (byteLength_eq text).symm⟩

theorem isCharBoundary_iff {chars : List Char} {offset : Nat} :
    isCharBoundary chars offset = true ↔
      ∃ front back, chars = front ++ back ∧ byteSize front = offset := by
  induction chars generalizing offset with
  | nil =>
      rw [isCharBoundary, beq_iff_eq]
      constructor
      · rintro rfl
        exact ⟨[], [], rfl, rfl⟩
      · rintro ⟨front, back, shape, rfl⟩
        rw [(List.append_eq_nil_iff.mp shape.symm).1, byteSize_nil]
  | cons char rest inductionHypothesis =>
      rw [isCharBoundary, Bool.or_eq_true_iff, beq_iff_eq, Bool.and_eq_true_iff,
        decide_eq_true_iff, inductionHypothesis]
      constructor
      · rintro (rfl | ⟨inside, front, back, rfl, size⟩)
        · exact ⟨[], char :: rest, rfl, rfl⟩
        · refine ⟨char :: front, back, rfl, ?_⟩
          rw [← List.singleton_append, byteSize_append]
          omega
      · rintro ⟨front, back, shape, rfl⟩
        cases front with
        | nil => exact .inl rfl
        | cons first front =>
            obtain ⟨rfl, rfl⟩ := List.cons_eq_cons.mp shape
            right
            rw [← List.singleton_append (l := front), byteSize_append]
            exact ⟨by omega, front, back, rfl, by omega⟩

theorem floorBoundary_le (text : String) (offset : Nat) : floorBoundary text offset ≤ offset := by
  induction offset with
  | zero => exact Nat.le_refl 0
  | succ offset inductionHypothesis =>
      rw [floorBoundary]
      split <;> omega

theorem isCut_floorBoundary (text : String) (offset : Nat) :
    IsCut text (floorBoundary text offset) := by
  induction offset with
  | zero => exact isCut_zero text
  | succ offset inductionHypothesis =>
      rw [floorBoundary]
      split
      · rename_i boundary
        exact isCharBoundary_iff.mp boundary
      · exact inductionHypothesis

/-- A snapped offset is between two characters, and no later. -/
theorem snapGrapheme_spec (unicode : Unicode) (text : String) (offset : Nat) :
    IsCut text (snapGrapheme unicode text offset) ∧ snapGrapheme unicode text offset ≤ offset := by
  have below := floorBoundary_le text (min offset (byteLength text))
  have cut := isCut_floorBoundary text (min offset (byteLength text))
  unfold snapGrapheme
  dsimp only
  generalize floorBoundary text (min offset (byteLength text)) = floor at below cut ⊢
  split
  · exact ⟨isCut_zero text, Nat.zero_le _⟩
  split
  · exact ⟨isCut_byteLength text, by omega⟩
  split
  · exact ⟨cut, by omega⟩
  cases found : unicode.prevBoundary text floor with
  | none => exact ⟨isCut_zero text, Nat.zero_le _⟩
  | some before =>
      have earlier := unicode.prev_before found
      exact ⟨earlier.2, by rw [Option.getD_some]; omega⟩

/-- The end of a grapheme is behind its start, and between two characters. -/
theorem nextGraphemeEnd_spec (unicode : Unicode) {text : String} {offset : Nat}
    (inside : offset < byteLength text) :
    offset < nextGraphemeEnd unicode text offset ∧
      IsCut text (nextGraphemeEnd unicode text offset) := by
  unfold nextGraphemeEnd
  cases found : unicode.nextBoundary text offset with
  | none => exact ⟨inside, isCut_byteLength text⟩
  | some behind => exact unicode.next_behind found

/-- The start of the word before an offset, or the offset when none touches it. -/
def wordStart (unicode : Unicode) (text : String) (start : Nat) : Nat :=
  if 0 < start then
    let prev := snapGrapheme unicode text (start - 1)
    if isWordAt unicode text prev then wordStart unicode text prev else start
  else start
termination_by start
decreasing_by
  have := (snapGrapheme_spec unicode text (start - 1)).2
  omega

/-- The end of the word behind an offset, or the offset when none touches it. -/
def wordEnd (unicode : Unicode) (text : String) (stop : Nat) : Nat :=
  if _inside : stop < byteLength text then
    if isWordAt unicode text stop then wordEnd unicode text (nextGraphemeEnd unicode text stop)
    else stop
  else stop
termination_by byteLength text - stop
decreasing_by
  have := (nextGraphemeEnd_spec unicode _inside).1
  omega

/-- The word that an offset touches. Off a word the range is empty. -/
def wordBounds (unicode : Unicode) (text : String) (offset : Nat) : Span :=
  let offset := snapGrapheme unicode text (min offset (byteLength text))
  if text = "" then ⟨0, 0⟩
  else ⟨wordStart unicode text offset, wordEnd unicode text offset⟩

theorem isCut_wordStart (unicode : Unicode) {text : String} {start : Nat} (cut : IsCut text start) :
    IsCut text (wordStart unicode text start) := by
  fun_induction wordStart unicode text start with
  | case1 start positive prev isWord inductionHypothesis =>
      exact inductionHypothesis (snapGrapheme_spec unicode text (start - 1)).1
  | case2 => exact cut
  | case3 => exact cut

theorem isCut_wordEnd (unicode : Unicode) {text : String} {stop : Nat} (cut : IsCut text stop) :
    IsCut text (wordEnd unicode text stop) := by
  fun_induction wordEnd unicode text stop with
  | case1 stop inside isWord inductionHypothesis =>
      exact inductionHypothesis (nextGraphemeEnd_spec unicode inside).2
  | case2 => exact cut
  | case3 => exact cut

/-- A word begins and ends between characters. -/
theorem isCut_wordBounds (unicode : Unicode) (text : String) (offset : Nat) :
    IsCut text (wordBounds unicode text offset).start ∧
      IsCut text (wordBounds unicode text offset).stop := by
  have cut := (snapGrapheme_spec unicode text (min offset (byteLength text))).1
  unfold wordBounds
  dsimp only
  split
  · exact ⟨isCut_zero text, isCut_zero text⟩
  · exact ⟨isCut_wordStart unicode cut, isCut_wordEnd unicode cut⟩

/-! ## Undo -/

/-- Whether a range is empty. -/
def Span.isEmpty (range : Span) : Bool := !decide (range.start < range.stop)

/-- The text and selection an undo step restores. -/
structure EditSnapshot where
  text : String
  selected : Span

/-- Undo and redo steps, the last one first, and where the last typed character ended. -/
structure UndoStack where
  undoSteps : List EditSnapshot := []
  redoSteps : List EditSnapshot := []
  typingEnd : Option Nat := none

namespace UndoStack

/-- Whether an edit types one character. -/
def isTyped (range : Span) (inserted : String) : Bool :=
  Span.isEmpty range && inserted.length == 1

/-- Whether a typed character joins the open step. -/
def joins (stack : UndoStack) (range : Span) (inserted : String) : Bool :=
  isTyped range inserted && stack.typingEnd == some range.start

/-- Notes an edit before it is applied. -/
def record (stack : UndoStack) (before : EditSnapshot) (range : Span) (inserted : String) :
    UndoStack :=
  let noted :=
    if stack.joins range inserted then stack
    else { stack with undoSteps := before :: stack.undoSteps, redoSteps := [] }
  { noted with
    typingEnd :=
      if isTyped range inserted then some (range.start + byteLength inserted) else none }

/-- Takes the prior snapshot. What is now goes to the redo steps. -/
def undo (stack : UndoStack) (current : EditSnapshot) : Option EditSnapshot × UndoStack :=
  match stack.undoSteps with
  | [] => (none, { stack with typingEnd := none })
  | prev :: undoSteps => (some prev, ⟨undoSteps, current :: stack.redoSteps, none⟩)

/-- Takes the snapshot undone last. What is now goes to the undo steps. -/
def redo (stack : UndoStack) (current : EditSnapshot) : Option EditSnapshot × UndoStack :=
  match stack.redoSteps with
  | [] => (none, { stack with typingEnd := none })
  | next :: redoSteps => (some next, ⟨current :: stack.undoSteps, redoSteps, none⟩)

end UndoStack

/-- A single-line field. `fitLen` says how many bytes of an insertion the send limit lets in between
two texts. -/
structure SingleLineInput where
  content : String := ""
  selectedRange : Span := ⟨0, 0⟩
  selectionReversed : Bool := false
  markedRange : Option Span := none
  undoStack : UndoStack := {}
  fitLen : String → String → String → Nat := fun _ inserted _ => byteLength inserted

namespace SingleLineInput

/-- The first bytes of a text, as many as fit the limit on their own. -/
def cutToLimit (input : SingleLineInput) (text : String) : String :=
  String.ofList (takeBytes (input.fitLen "" text "") text.toList)

/-- The text and selection as they are now. -/
def snapshot (input : SingleLineInput) : EditSnapshot := ⟨input.content, input.selectedRange⟩

/-- Keeps both ends of the selection inside the text. -/
def clampSelection (input : SingleLineInput) : SingleLineInput :=
  let len := byteLength input.content
  { input with
    selectedRange := ⟨min input.selectedRange.start len, min input.selectedRange.stop len⟩
    markedRange := none }

/-- Sets the send limit. Text over it is cut, and the steps are forgotten. -/
def setSendLimit (input : SingleLineInput) (fitLen : String → String → String → Nat) :
    SingleLineInput :=
  let input := { input with fitLen }
  if input.fitLen "" input.content "" < byteLength input.content then
    { ({ input with content := input.cutToLimit input.content }).clampSelection with
      undoStack := {} }
  else input

/-- Replaces the whole text and forgets the steps. -/
def loadText (input : SingleLineInput) (text : String) (cursor : Option Nat) : SingleLineInput :=
  let content := input.cutToLimit text
  let len := byteLength content
  let caret := cursor.elim len fun at_ => min at_ len
  { input with
    content
    selectedRange := ⟨caret, caret⟩
    selectionReversed := false
    markedRange := none
    undoStack := {} }

/-- Puts the caret at an offset. -/
def moveTo (input : SingleLineInput) (offset : Nat) : SingleLineInput :=
  { input with selectedRange := ⟨offset, offset⟩ }

/-- Moves the end of the selection that the caret is on. -/
def selectTo (input : SingleLineInput) (offset : Nat) : SingleLineInput :=
  let range : Span :=
    if input.selectionReversed then ⟨offset, input.selectedRange.stop⟩
    else ⟨input.selectedRange.start, offset⟩
  if range.stop < range.start then
    { input with
      selectedRange := ⟨range.stop, range.start⟩
      selectionReversed := !input.selectionReversed }
  else { input with selectedRange := range }

/-- The range that an edit replaces: the given one, else the marked text, else the selection. -/
def editRange (input : SingleLineInput) (range : Option Span) : Span :=
  (range.or input.markedRange).getD input.selectedRange

/-- The texts before and behind a range. -/
def around (input : SingleLineInput) (range : Span) : String × String :=
  (String.ofList (takeBytes range.start input.content.toList),
    String.ofList (dropBytes range.stop input.content.toList))

/-- What the limit lets in of a text that replaces a range. -/
def admitted (input : SingleLineInput) (range : Span) (newText : String) : String :=
  let (before, after) := input.around range
  String.ofList (takeBytes (input.fitLen before newText after) newText.toList)

/-- The content with a range replaced. -/
def spliced (input : SingleLineInput) (range : Span) (newText : String) : String :=
  (input.around range).1 ++ newText ++ (input.around range).2

/-- Types or pastes a text over a range. -/
def replaceTextInRange (input : SingleLineInput) (range : Option Span) (newText : String) :
    SingleLineInput :=
  let range := input.editRange range
  let newText := input.admitted range newText
  if Span.isEmpty range && newText == "" then input
  else
    let caret := range.start + byteLength newText
    { input with
      content := input.spliced range newText
      selectedRange := ⟨caret, caret⟩
      markedRange := none
      undoStack := input.undoStack.record input.snapshot range newText }

/-- Puts a text of the input method over a range and marks it. No step is recorded. -/
def replaceAndMarkTextInRange (input : SingleLineInput) (range : Option Span) (newText : String)
    (selected : Span) : SingleLineInput :=
  let range := input.editRange range
  let newText := input.admitted range newText
  { input with
    content := input.spliced range newText
    selectedRange := selected
    markedRange :=
      if newText == "" then none else some ⟨range.start, range.start + byteLength newText⟩ }

/-- Restores a step, cut to the limit. -/
def applySnapshot (input : SingleLineInput) (step : EditSnapshot) : SingleLineInput :=
  ({ input with
    content := input.cutToLimit step.text
    selectedRange := step.selected
    selectionReversed := false }).clampSelection

/-- Takes a step back. -/
def undo (input : SingleLineInput) : SingleLineInput :=
  let (step, undoStack) := input.undoStack.undo input.snapshot
  let input := { input with undoStack }
  step.elim input input.applySnapshot

/-- Takes a step forward again. -/
def redo (input : SingleLineInput) : SingleLineInput :=
  let (step, undoStack) := input.undoStack.redo input.snapshot
  let input := { input with undoStack }
  step.elim input input.applySnapshot

/-! ## Texts of a field -/

/-- The texts that undo and redo lead to. -/
def texts (input : SingleLineInput) : Timeline String :=
  ⟨input.undoStack.undoSteps.map (·.text), input.content,
    input.undoStack.redoSteps.map (·.text)⟩

/-- A text fits the limit on its own. -/
def Fits (input : SingleLineInput) (text : String) : Prop :=
  input.fitLen "" text "" = byteLength text

instance (input : SingleLineInput) (text : String) : Decidable (input.Fits text) :=
  inferInstanceAs (Decidable (_ = _))

theorem cutToLimit_of_fits {input : SingleLineInput} {text : String} (fits : input.Fits text) :
    input.cutToLimit text = text := by
  have whole := takeBytes_append text.toList []
  rw [List.append_nil] at whole
  rw [cutToLimit, fits, byteLength_eq]
  exact (congrArg String.ofList whole).trans String.ofList_toList

/-- What undo does to a field that has a step. -/
theorem undo_cons {input : SingleLineInput} {prev : EditSnapshot} {rest : List EditSnapshot}
    (steps : input.undoStack.undoSteps = prev :: rest) :
    input.undo = applySnapshot
      { input with
        undoStack := ⟨rest, input.snapshot :: input.undoStack.redoSteps, none⟩ } prev := by
  rw [undo, UndoStack.undo, steps]
  rfl

theorem undo_nil {input : SingleLineInput} (steps : input.undoStack.undoSteps = []) :
    input.undo = { input with undoStack := { input.undoStack with typingEnd := none } } := by
  obtain ⟨content, selected, reversed, marked, ⟨undoSteps, redoSteps, typingEnd⟩, fitLen⟩ := input
  cases steps
  rfl

/-- What redo does to a field that has a step undone. -/
theorem redo_cons {input : SingleLineInput} {next : EditSnapshot} {rest : List EditSnapshot}
    (steps : input.undoStack.redoSteps = next :: rest) :
    input.redo = applySnapshot
      { input with
        undoStack := ⟨input.snapshot :: input.undoStack.undoSteps, rest, none⟩ } next := by
  rw [redo, UndoStack.redo, steps]
  rfl

theorem redo_nil {input : SingleLineInput} (steps : input.undoStack.redoSteps = []) :
    input.redo = { input with undoStack := { input.undoStack with typingEnd := none } } := by
  obtain ⟨content, selected, reversed, marked, ⟨undoSteps, redoSteps, typingEnd⟩, fitLen⟩ := input
  cases steps
  rfl

/-- Undo goes back on the texts. -/
theorem texts_undo {input : SingleLineInput}
    (fits : ∀ step ∈ input.undoStack.undoSteps, input.Fits step.text) :
    input.undo.texts = input.texts.back := by
  cases steps : input.undoStack.undoSteps with
  | nil =>
      rw [undo_nil steps]
      unfold texts
      rw [steps]
      rfl
  | cons prev rest =>
      have whole := cutToLimit_of_fits (fits prev (by rw [steps]; exact List.mem_cons_self))
      rw [undo_cons steps]
      unfold texts
      rw [steps]
      exact Timeline.ext rfl whole rfl

/-- Redo goes forward on the texts. -/
theorem texts_redo {input : SingleLineInput}
    (fits : ∀ step ∈ input.undoStack.redoSteps, input.Fits step.text) :
    input.redo.texts = input.texts.forward := by
  cases steps : input.undoStack.redoSteps with
  | nil =>
      rw [redo_nil steps]
      unfold texts
      rw [steps]
      rfl
  | cons next rest =>
      have whole := cutToLimit_of_fits (fits next (by rw [steps]; exact List.mem_cons_self))
      rw [redo_cons steps]
      unfold texts
      rw [steps]
      exact Timeline.ext rfl whole rfl

/-! ## Runs -/

/-- What happens to a field. -/
inductive FieldEvent
  | replaced (range : Option Span) (newText : String)
  | composed (range : Option Span) (newText : String) (selected : Span)
  | movedTo (offset : Nat)
  | selectedTo (offset : Nat)
  | undone
  | redone
  | loaded (text : String) (cursor : Option Nat)
  | limited (fitLen : String → String → String → Nat)

def FieldEvent.apply (input : SingleLineInput) : FieldEvent → SingleLineInput
  | .replaced range newText => input.replaceTextInRange range newText
  | .composed range newText selected => input.replaceAndMarkTextInRange range newText selected
  | .movedTo offset => input.moveTo offset
  | .selectedTo offset => input.selectTo offset
  | .undone => input.undo
  | .redone => input.redo
  | .loaded text cursor => input.loadText text cursor
  | .limited fitLen => input.setSendLimit fitLen

/-- The events between two loads that the undo stack is told of, while no text is composed and the
send limit stays as it is. -/
def FieldEvent.isEdit : FieldEvent → Bool
  | .replaced _ _ | .movedTo _ | .selectedTo _ | .undone | .redone => true
  | .composed _ _ _ | .loaded _ _ | .limited _ => false

/-- An edit after which the text fits the limit, so that nothing of it is ever cut. -/
def Uncut (input : SingleLineInput) (event : FieldEvent) : Prop :=
  event.isEdit = true ∧ (event.apply input).Fits (event.apply input).content

instance (input : SingleLineInput) (event : FieldEvent) : Decidable (Uncut input event) :=
  inferInstanceAs (Decidable (_ ∧ _))

/-- A field since its load. -/
structure Undoable (loaded : String) (input : SingleLineInput) : Prop where
  content : input.Fits input.content
  undoSteps : ∀ step ∈ input.undoStack.undoSteps, input.Fits step.text
  redoSteps : ∀ step ∈ input.undoStack.redoSteps, input.Fits step.text
  /-- An open step is the last undo step, and nothing can be redone. -/
  typing : input.undoStack.typingEnd ≠ none →
    input.undoStack.undoSteps ≠ [] ∧ input.undoStack.redoSteps = []
  origin : input.texts.origin = loaded

namespace Undoable

variable {loaded : String} {input : SingleLineInput}

theorem undo (holds : Undoable loaded input) : Undoable loaded input.undo := by
  have texts := texts_undo holds.undoSteps
  cases steps : input.undoStack.undoSteps with
  | nil =>
      rw [undo_nil steps]
      exact ⟨holds.content, holds.undoSteps, holds.redoSteps, fun typing => absurd rfl typing,
        holds.origin⟩
  | cons prev rest =>
      have listed := holds.undoSteps
      rw [steps, List.forall_mem_cons] at listed
      have whole := cutToLimit_of_fits listed.1
      refine ⟨?_, ?_, ?_, ?_, ?_⟩
      · rw [undo_cons steps]
        exact (congrArg input.Fits whole).mpr listed.1
      · rw [undo_cons steps]
        exact listed.2
      · rw [undo_cons steps]
        exact List.forall_mem_cons.mpr ⟨holds.content, holds.redoSteps⟩
      · rw [undo_cons steps]
        exact fun typing => absurd rfl typing
      · rw [texts, Timeline.origin_back, holds.origin]

theorem redo (holds : Undoable loaded input) : Undoable loaded input.redo := by
  have texts := texts_redo holds.redoSteps
  cases steps : input.undoStack.redoSteps with
  | nil =>
      rw [redo_nil steps]
      exact ⟨holds.content, holds.undoSteps, holds.redoSteps, fun typing => absurd rfl typing,
        holds.origin⟩
  | cons next rest =>
      have listed := holds.redoSteps
      rw [steps, List.forall_mem_cons] at listed
      have whole := cutToLimit_of_fits listed.1
      refine ⟨?_, ?_, ?_, ?_, ?_⟩
      · rw [redo_cons steps]
        exact (congrArg input.Fits whole).mpr listed.1
      · rw [redo_cons steps]
        exact List.forall_mem_cons.mpr ⟨holds.content, holds.undoSteps⟩
      · rw [redo_cons steps]
        exact listed.2
      · rw [redo_cons steps]
        exact fun typing => absurd rfl typing
      · rw [texts, Timeline.origin_forward, holds.origin]

/-- A recorded edit is a new present, or amends the present when it joins the open step. -/
theorem replace (holds : Undoable loaded input) (range : Option Span) (newText : String)
    (fits : input.Fits (input.replaceTextInRange range newText).content) :
    Undoable loaded (input.replaceTextInRange range newText) := by
  unfold replaceTextInRange at fits ⊢
  dsimp only at fits ⊢
  generalize input.admitted (input.editRange range) newText = admitted at fits ⊢
  generalize input.editRange range = range at fits ⊢
  split at fits
  · rename_i nothing
    rw [if_pos nothing]
    exact holds
  rename_i something
  rw [if_neg something]
  cases joined : input.undoStack.joins range admitted with
  | true =>
      obtain ⟨typed, last⟩ := Bool.and_eq_true_iff.mp joined
      have open_ := holds.typing (by rw [beq_iff_eq.mp last]; nofun)
      have same : input.undoStack.record input.snapshot range admitted =
          { input.undoStack with typingEnd := some (range.start + byteLength admitted) } := by
        rw [UndoStack.record, if_pos joined, if_pos typed]
      rw [same]
      refine ⟨fits, holds.undoSteps, holds.redoSteps, fun _ => open_, ?_⟩
      refine Eq.trans (Timeline.origin_amend input.texts ?_ _) holds.origin
      exact fun empty => open_.1 (List.map_eq_nil_iff.mp empty)
  | false =>
      have same : ∃ typingEnd, input.undoStack.record input.snapshot range admitted =
          ⟨input.snapshot :: input.undoStack.undoSteps, [], typingEnd⟩ := by
        rw [UndoStack.record, joined]
        exact ⟨_, rfl⟩
      obtain ⟨typingEnd, same⟩ := same
      rw [same]
      refine ⟨fits, List.forall_mem_cons.mpr ⟨holds.content, holds.undoSteps⟩, ?_, ?_, ?_⟩
      · exact fun step listed => absurd listed List.not_mem_nil
      · exact fun _ => ⟨List.cons_ne_nil _ _, rfl⟩
      · exact Eq.trans (Timeline.origin_commit input.texts _) holds.origin

theorem select (holds : Undoable loaded input) (offset : Nat) :
    Undoable loaded (input.selectTo offset) := by
  have same : ∃ selectedRange selectionReversed,
      input.selectTo offset = { input with selectedRange, selectionReversed } := by
    unfold selectTo
    dsimp only
    split <;> split <;> exact ⟨_, _, rfl⟩
  obtain ⟨selectedRange, selectionReversed, same⟩ := same
  rw [same]
  exact ⟨holds.content, holds.undoSteps, holds.redoSteps, holds.typing, holds.origin⟩

/-- Every edit that is never cut keeps the field undoable. -/
theorem step (holds : Undoable loaded input) {event : FieldEvent} (uncut : Uncut input event) :
    Undoable loaded (event.apply input) := by
  obtain ⟨edit, fits⟩ := uncut
  cases event with
  | replaced range newText =>
      refine holds.replace range newText ?_
      have same : (input.replaceTextInRange range newText).fitLen = input.fitLen := by
        unfold replaceTextInRange
        dsimp only
        split <;> rfl
      unfold Fits at fits ⊢
      rw [← same]
      exact fits
  | movedTo offset =>
      exact ⟨holds.content, holds.undoSteps, holds.redoSteps, holds.typing, holds.origin⟩
  | selectedTo offset => exact holds.select offset
  | undone => exact holds.undo
  | redone => exact holds.redo
  | composed _ _ _ => cases edit
  | loaded _ _ => cases edit
  | limited _ => cases edit

/-- Undo goes back on the texts as often as it is pressed. -/
theorem texts_iterate_undo (holds : Undoable loaded input) (count : Nat) :
    (SingleLineInput.undo^[count] input).texts = Timeline.back^[count] input.texts ∧
      Undoable loaded (SingleLineInput.undo^[count] input) := by
  induction count with
  | zero => exact ⟨rfl, holds⟩
  | succ count inductionHypothesis =>
      obtain ⟨texts, kept⟩ := inductionHypothesis
      rw [Function.iterate_succ_apply', Function.iterate_succ_apply', texts_undo kept.undoSteps,
        texts]
      exact ⟨rfl, kept.undo⟩

theorem texts_iterate_redo (holds : Undoable loaded input) (count : Nat) :
    (SingleLineInput.redo^[count] input).texts = Timeline.forward^[count] input.texts ∧
      Undoable loaded (SingleLineInput.redo^[count] input) := by
  induction count with
  | zero => exact ⟨rfl, holds⟩
  | succ count inductionHypothesis =>
      obtain ⟨texts, kept⟩ := inductionHypothesis
      rw [Function.iterate_succ_apply', Function.iterate_succ_apply', texts_redo kept.redoSteps,
        texts]
      exact ⟨rfl, kept.redo⟩

end Undoable

/-- Edits of a field, one after another. -/
def transition (input : SingleLineInput) (event : FieldEvent) : Option SingleLineInput :=
  some (event.apply input)

/-- A field whose text was loaded and is edited. -/
theorem undoable_of_runs {blank input : SingleLineInput} {text : String} {cursor : Option Nat}
    (fits : blank.Fits text) (runs : Runs transition Uncut (blank.loadText text cursor) input) :
    Undoable text input := by
  refine runs.invariant (Undoable text) ?_ ?_
  · have whole := cutToLimit_of_fits fits
    refine ⟨(congrArg blank.Fits whole).mpr fits, ?_, ?_, fun typing => absurd rfl typing, whole⟩
    · exact fun step listed => absurd listed List.not_mem_nil
    · exact fun step listed => absurd listed List.not_mem_nil
  · rintro current event next holds uncut ⟨⟩
    exact holds.step uncut

section Witness

/-- Two characters typed, one in front of them, an undo, a redo and an undo. -/
private def fieldEvents : List FieldEvent :=
  [.replaced none "a", .replaced none "b", .movedTo 0, .replaced none "c", .undone, .redone,
    .undone]

end Witness

/-! ## Typing -/

/-- The field after characters are typed one by one. -/
def typeAll (input : SingleLineInput) (chars : List Char) : SingleLineInput :=
  chars.foldl (fun input char => input.replaceTextInRange none (String.singleton char)) input

/-- The field lets a typed character in. -/
def LetsIn (input : SingleLineInput) (char : Char) : Prop :=
  input.admitted (input.editRange none) (String.singleton char) = String.singleton char

instance (input : SingleLineInput) (char : Char) : Decidable (input.LetsIn char) :=
  inferInstanceAs (Decidable (_ = _))

/-- Nothing is selected or marked, and the caret is at an offset. -/
structure CaretAt (place : Nat) (input : SingleLineInput) : Prop where
  marked : input.markedRange = none
  selected : input.selectedRange = ⟨place, place⟩

/-- A character typed at the caret moves it, and is recorded. -/
theorem type_one {input : SingleLineInput} {place : Nat} {char : Char} (caret : CaretAt place input)
    (letsIn : input.LetsIn char) :
    ∃ next, CaretAt next (input.replaceTextInRange none (String.singleton char)) ∧
      (input.replaceTextInRange none (String.singleton char)).fitLen = input.fitLen ∧
      (input.replaceTextInRange none (String.singleton char)).undoStack =
        if input.undoStack.typingEnd = some place then
          { input.undoStack with typingEnd := some next }
        else ⟨input.snapshot :: input.undoStack.undoSteps, [], some next⟩ := by
  have range : input.editRange none = ⟨place, place⟩ := by
    rw [editRange, caret.marked, caret.selected]
    rfl
  have empty : Span.isEmpty ⟨place, place⟩ = true := by simp [Span.isEmpty]
  have full : (String.singleton char == "") = false :=
    beq_false_of_ne fun same => by simpa using congrArg String.length same
  have typed : UndoStack.isTyped ⟨place, place⟩ (String.singleton char) = true := by
    rw [UndoStack.isTyped, empty, String.length_singleton]
    rfl
  refine ⟨place + byteLength (String.singleton char), ?_⟩
  unfold replaceTextInRange
  dsimp only
  rw [letsIn, range, full, Bool.and_false, if_neg Bool.false_ne_true]
  refine ⟨⟨rfl, rfl⟩, rfl, ?_⟩
  dsimp only
  rw [UndoStack.record, typed, UndoStack.joins, typed, Bool.true_and]
  by_cases last : input.undoStack.typingEnd = some place
  · rw [if_pos last, if_pos (beq_iff_eq.mpr last)]
    rfl
  · rw [if_neg last, if_neg (fun same => last (beq_iff_eq.mp same))]
    rfl

/-- Characters typed behind one another are one step. -/
theorem type_rest {input before : SingleLineInput} {place : Nat} {undoSteps : List EditSnapshot}
    (chars : List Char) (caret : CaretAt place input)
    (open_ : input.undoStack = ⟨undoSteps, [], some place⟩) (limit : input.fitLen = before.fitLen)
    (letsIn : ∀ front char back, chars = front ++ char :: back →
      (input.typeAll front).LetsIn char) :
    (input.typeAll chars).fitLen = before.fitLen ∧
      (input.typeAll chars).undoStack.undoSteps = undoSteps ∧
      (input.typeAll chars).undoStack.redoSteps = [] := by
  induction chars generalizing input place with
  | nil =>
      unfold typeAll
      rw [List.foldl_nil, open_]
      exact ⟨limit, rfl, rfl⟩
  | cons char rest inductionHypothesis =>
      obtain ⟨next, moved, same, stack⟩ := type_one caret (letsIn [] char rest rfl)
      rw [open_, if_pos rfl] at stack
      exact inductionHypothesis moved stack (same.trans limit) fun front later back shape =>
        letsIn (char :: front) later back (by rw [shape, List.cons_append])

end SingleLineInput

end Omairc.Model
