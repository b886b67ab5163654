import Mathlib.Data.List.Basic

/-!
# The first occurrence of a symbol

`position` locates a separator. The lemmas turn a located separator into the
decomposition `front ++ separator :: back` with no separator in `front`, and back,
so that proofs about cutting at separators speak of appended parts rather than of
indices.
-/

namespace Omairc.Text

universe u

variable {α : Type u} [DecidableEq α] {symbol : α}

/-- Position of the first occurrence of `symbol`. -/
def position (symbol : α) : List α → Option Nat
  | [] => none
  | head :: tail => if head = symbol then some 0 else (position symbol tail).map (· + 1)

/-- No position exactly when the symbol does not occur. -/
theorem position_eq_none_iff {input : List α} : position symbol input = none ↔ symbol ∉ input := by
  induction input with
  | nil => simp [position]
  | cons head tail ih =>
      by_cases here : head = symbol
      · simp [position, here]
      · simp [position, here, ih, Ne.symm here]

/-- The first separator of `front ++ symbol :: back` ends a `front` without separators. -/
@[simp] theorem position_append_cons {front : List α} (absent : symbol ∉ front) (back : List α) :
    position symbol (front ++ symbol :: back) = some front.length := by
  induction front with
  | nil => simp [position]
  | cons head tail ih =>
      simp only [List.mem_cons, not_or] at absent
      simp [position, Ne.symm absent.1, ih absent.2]

/-- A located separator decomposes its list. -/
theorem position_eq_some {input : List α} {index : Nat}
    (found : position symbol input = some index) :
    input = input.take index ++ symbol :: input.drop (index + 1) ∧
      symbol ∉ input.take index ∧ index < input.length := by
  induction input generalizing index with
  | nil => cases found
  | cons head tail ih =>
      by_cases here : head = symbol
      · simp only [position, here, if_true, Option.some.injEq] at found
        subst found
        simp [here]
      · simp only [position, here, if_false, Option.map_eq_some_iff] at found
        obtain ⟨tailIndex, tailFound, rfl⟩ := found
        obtain ⟨shape, absent, inside⟩ := ih tailFound
        refine ⟨?_, ?_, ?_⟩
        · simpa using shape
        · simpa [Ne.symm here] using absent
        · simpa using inside

/-- A separator found in `front` is still the first one when more follows. -/
theorem position_append_of_some {front : List α} {index : Nat} (back : List α)
    (found : position symbol front = some index) :
    position symbol (front ++ back) = some index := by
  induction front generalizing index with
  | nil => cases found
  | cons head tail ih =>
      by_cases here : head = symbol
      · simpa [position, here] using found
      · simp only [position, here, if_false, Option.map_eq_some_iff] at found
        obtain ⟨tailIndex, tailFound, rfl⟩ := found
        simp [position, here, ih tailFound]

/-- Without a separator in `front` the search goes on behind it. -/
theorem position_append_of_notMem {front : List α} (back : List α) (absent : symbol ∉ front) :
    position symbol (front ++ back) = (position symbol back).map (· + front.length) := by
  induction front with
  | nil => simp
  | cons head tail ih =>
      simp only [List.mem_cons, not_or] at absent
      simp only [List.cons_append, position, Ne.symm absent.1, if_false, ih absent.2,
        Option.map_map]
      congr 1

/-- Every list either lacks the separator or is cut at its first occurrence. -/
theorem position_cases (symbol : α) (input : List α) :
    (position symbol input = none ∧ symbol ∉ input) ∨
      ∃ front back, input = front ++ symbol :: back ∧ symbol ∉ front ∧
        position symbol input = some front.length := by
  cases found : position symbol input with
  | none => exact Or.inl ⟨rfl, position_eq_none_iff.mp found⟩
  | some index =>
      obtain ⟨shape, absent, inside⟩ := position_eq_some found
      refine Or.inr ⟨input.take index, input.drop (index + 1), shape, absent, ?_⟩
      rw [List.length_take, Nat.min_eq_left (Nat.le_of_lt inside)]

/-- The parts before and after the first occurrence of `symbol`. -/
def splitOnce (symbol : α) (input : List α) : Option (List α × List α) :=
  (position symbol input).map fun index => (input.take index, input.drop (index + 1))

/-- Nothing is split exactly when the symbol does not occur. -/
theorem splitOnce_eq_none_iff {input : List α} :
    splitOnce symbol input = none ↔ symbol ∉ input := by
  rw [splitOnce, Option.map_eq_none_iff, position_eq_none_iff]

/-- The two parts are the ones around a separator that the first part lacks. -/
theorem splitOnce_eq_some_iff {input front back : List α} :
    splitOnce symbol input = some (front, back) ↔
      input = front ++ symbol :: back ∧ symbol ∉ front := by
  constructor
  · intro split
    obtain ⟨index, found, parts⟩ := Option.map_eq_some_iff.mp split
    obtain ⟨shape, absent, _⟩ := position_eq_some found
    cases parts
    exact ⟨shape, absent⟩
  · rintro ⟨rfl, absent⟩
    simp [splitOnce, position_append_cons absent]

/-- Splitting an appended list at its separator returns the parts. -/
theorem splitOnce_append_cons {front : List α} (absent : symbol ∉ front) (back : List α) :
    splitOnce symbol (front ++ symbol :: back) = some (front, back) :=
  splitOnce_eq_some_iff.mpr ⟨rfl, absent⟩

/-- The pieces of a split lack the separator, and hold only what the list holds. -/
theorem splitOn_pieces {separator : α} {input piece : List α}
    (cut : piece ∈ input.splitOn separator) :
    ∀ other ∈ piece, other ≠ separator ∧ other ∈ input := by
  induction input generalizing piece with
  | nil => simp_all
  | cons head tail ih =>
      rw [List.splitOn_cons_eq_if_modifyHead] at cut
      split at cut
      case isTrue here =>
        rcases List.mem_cons.mp cut with rfl | later
        · simp
        · intro other present
          obtain ⟨different, inside⟩ := ih later other present
          exact ⟨different, List.mem_cons_of_mem _ inside⟩
      case isFalse elsewhere =>
        cases parts : tail.splitOn separator with
        | nil => exact absurd parts (List.splitOn_ne_nil separator tail)
        | cons first others =>
            rw [parts, List.modifyHead_cons] at cut
            rw [parts] at ih
            rcases List.mem_cons.mp cut with rfl | later
            · intro other present
              rcases List.mem_cons.mp present with rfl | inFirst
              · exact ⟨by simpa using elsewhere, List.mem_cons_self⟩
              · obtain ⟨different, inside⟩ := ih List.mem_cons_self other inFirst
                exact ⟨different, List.mem_cons_of_mem _ inside⟩
            · intro other present
              obtain ⟨different, inside⟩ := ih (List.mem_cons_of_mem _ later) other present
              exact ⟨different, List.mem_cons_of_mem _ inside⟩

end Omairc.Text
