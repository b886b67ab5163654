import Mathlib.Data.List.Basic

/-!
# Lines ended by a pair of symbols

A stream is cut at every occurrence of two adjacent terminator symbols. The cut
is a pair of the complete lines and the unfinished remainder, so it says what an
incremental reader must agree with: `splitPair_append` lets a reader that has
consumed `front` forget everything but the remainder of `front`, and
`findPair_append_retained` lets a reader that throws the remainder away keep only
a possible first half of the terminator.
-/

namespace Omairc.Text

universe u

variable {α : Type u} [DecidableEq α] {first second : α}

/-- Position of the first adjacent occurrence of `first` and `second`. -/
def findPair (first second : α) : List α → Option Nat
  | [] => none
  | [_] => none
  | x :: y :: rest =>
      if x = first ∧ y = second then some 0
      else (findPair first second (y :: rest)).map (· + 1)

/-- The complete lines of a stream, terminators removed, and its unfinished remainder. -/
def splitPair (first second : α) : List α → List (List α) × List α
  | [] => ([], [])
  | [x] => ([], [x])
  | x :: y :: rest =>
      if x = first ∧ y = second then
        ([] :: (splitPair first second rest).1, (splitPair first second rest).2)
      else
        match splitPair first second (y :: rest) with
        | ([], remainder) => ([], x :: remainder)
        | (line :: lines, remainder) => ((x :: line) :: lines, remainder)

/-- The part of a discarded remainder that can still begin a terminator. -/
def retained (first : α) (remainder : List α) : List α :=
  if remainder.getLast? = some first then [first] else []

/-- A retained remainder is no longer than the remainder. -/
theorem retained_length (first : α) (remainder : List α) :
    (retained first remainder).length ≤ remainder.length := by
  unfold retained
  split
  case isTrue ends =>
    have nonempty : remainder ≠ [] := by
      rintro rfl
      cases ends
    exact List.length_pos_of_ne_nil nonempty
  case isFalse => simp

/-- Retaining half a terminator commutes with reading on. -/
theorem retained_append_retained (first : α) (remainder more : List α) :
    retained first (retained first remainder ++ more) = retained first (remainder ++ more) := by
  cases more with
  | nil =>
      unfold retained
      split <;> simp_all
  | cons head tail =>
      unfold retained
      simp [List.getLast?_append]

/-- At most one symbol is retained. -/
theorem retained_length_le_one (first : α) (remainder : List α) :
    (retained first remainder).length ≤ 1 := by
  unfold retained
  split <;> simp

/-- What is retained is the end of the remainder. -/
theorem drop_retained (first : α) (remainder : List α) :
    remainder.drop (remainder.length - (retained first remainder).length) =
      retained first remainder := by
  unfold retained
  split
  case isTrue ends =>
    obtain ⟨front, rfl⟩ := List.getLast?_eq_some_iff.mp ends
    simp
  case isFalse => simp

/-- Half a terminator is not one. -/
theorem findPair_retained (first second : α) (remainder : List α) :
    findPair first second (retained first remainder) = none := by
  unfold retained
  split <;> rfl

/-- A found terminator lies inside the list. -/
theorem findPair_bound {input : List α} {position : Nat}
    (found : findPair first second input = some position) :
    position + 2 ≤ input.length := by
  fun_induction findPair first second input generalizing position with
  | case1 => cases found
  | case2 => cases found
  | case3 x y rest here =>
      cases found
      simp
  | case4 x y rest elsewhere ih =>
      rw [Option.map_eq_some_iff] at found
      obtain ⟨tailPosition, tailFound, rfl⟩ := found
      have bounded := ih tailFound
      simp only [List.length_cons] at bounded ⊢
      omega

/-- The two symbols at a found position are the terminator. -/
theorem findPair_shape {input : List α} {position : Nat}
    (found : findPair first second input = some position) :
    input = input.take position ++ first :: second :: input.drop (position + 2) := by
  fun_induction findPair first second input generalizing position with
  | case1 => cases found
  | case2 => cases found
  | case3 x y rest here =>
      cases found
      obtain ⟨rfl, rfl⟩ := here
      simp
  | case4 x y rest elsewhere ih =>
      rw [Option.map_eq_some_iff] at found
      obtain ⟨tailPosition, tailFound, rfl⟩ := found
      have shape := ih tailFound
      simpa using shape

/-- A list without the first symbol of the terminator holds no terminator. -/
theorem findPair_of_notMem {input : List α} (absent : first ∉ input) :
    findPair first second input = none := by
  cases found : findPair first second input with
  | none => rfl
  | some position =>
      refine absurd ?_ absent
      rw [findPair_shape found]
      simp

/-- A line with the first symbol of its terminator is one symbol longer. -/
theorem take_succ_findPair {input : List α} {position : Nat}
    (found : findPair first second input = some position) :
    input.take (position + 1) = input.take position ++ [first] := by
  have bounded := findPair_bound found
  have atPosition : (input.take position).length = position := by
    rw [List.length_take]
    omega
  conv_lhs => rw [findPair_shape found]
  rw [List.take_append, atPosition, Nat.add_sub_cancel_left,
    List.take_of_length_le (by rw [atPosition]; omega)]
  rfl

/-- A terminator found in `front` is still the first one after more input arrives. -/
theorem findPair_append_some {front : List α} {position : Nat} (more : List α)
    (found : findPair first second front = some position) :
    findPair first second (front ++ more) = some position := by
  fun_induction findPair first second front generalizing position with
  | case1 => cases found
  | case2 => cases found
  | case3 x y rest here => simpa [findPair, here] using found
  | case4 x y rest elsewhere ih =>
      rw [Option.map_eq_some_iff] at found
      obtain ⟨tailPosition, tailFound, rfl⟩ := found
      have tailMore := ih tailFound
      simp only [List.cons_append] at tailMore
      simp [findPair, elsewhere, tailMore]

/-- An unfinished remainder has no influence on where the next terminator lies
beyond its own length, except through a trailing first half of one. -/
theorem findPair_append_retained {front : List α} (more : List α)
    (unfinished : findPair first second front = none) :
    findPair first second (front ++ more) =
      (findPair first second (retained first front ++ more)).map
        (· + (front.length - (retained first front).length)) := by
  fun_induction findPair first second front with
  | case1 => simp [retained]
  | case2 x =>
      by_cases half : x = first
      · simp [retained, half]
      · cases more with
        | nil => simp [retained, half, findPair]
        | cons y rest => simp [retained, half, findPair]
  | case3 x y rest here => cases unfinished
  | case4 x y rest elsewhere ih =>
      rw [Option.map_eq_none_iff] at unfinished
      have tailCase := ih unfinished
      have sameRetained : retained first (x :: y :: rest) = retained first (y :: rest) := by
        simp [retained]
      have short := retained_length first (y :: rest)
      simp only [List.cons_append] at tailCase
      simp only [List.cons_append, findPair, elsewhere, if_false, tailCase, sameRetained,
        Option.map_map]
      congr 1
      funext position
      simp only [Function.comp_apply, List.length_cons] at short ⊢
      omega

/-- A stream without a terminator is all remainder. -/
theorem splitPair_of_none {input : List α} (unfinished : findPair first second input = none) :
    splitPair first second input = ([], input) := by
  fun_induction findPair first second input with
  | case1 => rfl
  | case2 => rfl
  | case3 x y rest here => cases unfinished
  | case4 x y rest elsewhere ih =>
      rw [Option.map_eq_none_iff] at unfinished
      simp [splitPair, elsewhere, ih unfinished]

/-- A found terminator splits the first line off. -/
theorem splitPair_of_some {input : List α} {position : Nat}
    (found : findPair first second input = some position) :
    splitPair first second input =
      (input.take position :: (splitPair first second (input.drop (position + 2))).1,
        (splitPair first second (input.drop (position + 2))).2) := by
  fun_induction findPair first second input generalizing position with
  | case1 => cases found
  | case2 => cases found
  | case3 x y rest here =>
      cases found
      simp [splitPair, here]
  | case4 x y rest elsewhere ih =>
      rw [Option.map_eq_some_iff] at found
      obtain ⟨tailPosition, tailFound, rfl⟩ := found
      have tailSplit := ih tailFound
      simp only [splitPair, elsewhere, if_false, tailSplit, List.take_succ_cons,
        List.drop_succ_cons]

/-- The remainder of a split holds no terminator. -/
theorem findPair_remainder (first second : α) (input : List α) :
    findPair first second (splitPair first second input).2 = none := by
  induction size : input.length using Nat.strongRecOn generalizing input with
  | ind size ih =>
      cases found : findPair first second input with
      | none => rw [splitPair_of_none found]; exact found
      | some position =>
          have bounded := findPair_bound found
          rw [splitPair_of_some found]
          exact ih _ (by simp; omega) _ rfl

/-- Splitting resumes from the remainder: the lines of a longer stream are those
already complete, followed by those of the remainder with the new input. -/
theorem splitPair_append (first second : α) (front more : List α) :
    splitPair first second (front ++ more) =
      ((splitPair first second front).1 ++
          (splitPair first second ((splitPair first second front).2 ++ more)).1,
        (splitPair first second ((splitPair first second front).2 ++ more)).2) := by
  induction size : front.length using Nat.strongRecOn generalizing front with
  | ind size ih =>
      cases found : findPair first second front with
      | none => simp [splitPair_of_none found]
      | some position =>
          have bounded := findPair_bound found
          have tailCase := ih _ (by simp; omega) (front.drop (position + 2)) rfl
          rw [splitPair_of_some (findPair_append_some more found), splitPair_of_some found,
            List.take_append_of_le_length (by omega), List.drop_append_of_le_length bounded,
            tailCase]
          simp

end Omairc.Text
