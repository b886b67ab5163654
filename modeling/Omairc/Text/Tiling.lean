import Omairc.Text.Utf8

/-!
# Ranges that tile a text

Ranges of byte offsets tile a stretch when each begins where the one before it ended, none
is empty, and the first and the last reach its two ends. The slices at such ranges are the
stretch itself.
-/

namespace Omairc.Text

/-- The range between two byte offsets. -/
structure Span where
  start : Nat
  stop : Nat
  deriving DecidableEq

/-- Nonempty ranges from one offset to another, each beginning where the last one ended. -/
inductive Tiles : Nat → List Span → Nat → Prop
  | nil (offset : Nat) : Tiles offset [] offset
  | cons {start middle stop : Nat} {spans : List Span} (nonempty : start < middle)
      (rest : Tiles middle spans stop) : Tiles start (⟨start, middle⟩ :: spans) stop

namespace Tiles

variable {start middle stop : Nat} {front back spans : List Span}

/-- Tiled stretches join. -/
theorem append (first : Tiles start front middle) (second : Tiles middle back stop) :
    Tiles start (front ++ back) stop := by
  induction first with
  | nil => exact second
  | cons nonempty _ inductionHypothesis => exact .cons nonempty (inductionHypothesis second)

/-- A tiled stretch does not go back. -/
theorem le (tiles : Tiles start spans stop) : start ≤ stop := by
  induction tiles with
  | nil => exact le_rfl
  | cons nonempty _ inductionHypothesis => exact nonempty.le.trans inductionHypothesis

/-- One more range. -/
theorem concat (tiles : Tiles start spans middle) (nonempty : middle < stop) :
    Tiles start (spans ++ [⟨middle, stop⟩]) stop :=
  tiles.append (.cons nonempty (.nil stop))

end Tiles

/-- The bytes in a range. -/
def Span.slice (bytes : Bytes) (span : Span) : Bytes := (bytes.take span.stop).drop span.start

/-- The slices of a tiled stretch are the stretch. -/
theorem Tiles.flatMap_slice {start stop : Nat} {spans : List Span}
    (tiles : Tiles start spans stop) (bytes : Bytes) :
    spans.flatMap (Span.slice bytes) = Span.slice bytes ⟨start, stop⟩ := by
  induction tiles with
  | nil offset =>
      simp [Span.slice]
  | @cons start middle stop spans nonempty rest inductionHypothesis =>
      have ahead : start ≤ (bytes.take middle).length ∨ bytes.length ≤ start := by
        rw [List.length_take]
        omega
      have cut : bytes.take stop = bytes.take middle ++ (bytes.take stop).drop middle := by
        have shorter : bytes.take middle = (bytes.take stop).take middle := by
          rw [List.take_take, min_eq_left rest.le]
        rw [shorter, List.take_append_drop]
      rw [List.flatMap_cons, inductionHypothesis]
      simp only [Span.slice]
      conv_rhs => rw [cut]
      rw [List.drop_append]
      congr 1
      rcases ahead with inside | beyond
      · rw [Nat.sub_eq_zero_of_le inside, List.drop_zero]
      · have empty : (bytes.take stop).drop middle = [] :=
          List.drop_eq_nil_of_le (by rw [List.length_take]; omega)
        rw [empty, List.drop_nil]

/-- An offset between two characters. -/
def IsCharBoundary (characters : List Char) (offset : Nat) : Prop :=
  ∃ front back, characters = front ++ back ∧ offset = (encode front).length

/-- The end of a text is a boundary. -/
theorem IsCharBoundary.end (characters : List Char) :
    IsCharBoundary characters (encode characters).length :=
  ⟨characters, [], (List.append_nil _).symm, rfl⟩

/-- A boundary stays one in a longer text. -/
theorem IsCharBoundary.append {characters : List Char} {offset : Nat}
    (boundary : IsCharBoundary characters offset) (more : List Char) :
    IsCharBoundary (characters ++ more) offset := by
  obtain ⟨front, back, rfl, rfl⟩ := boundary
  exact ⟨front, back ++ more, List.append_assoc front back more, rfl⟩

end Omairc.Text
