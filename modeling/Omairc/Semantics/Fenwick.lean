import Mathlib.Algebra.BigOperators.Intervals
import Mathlib.Algebra.Order.Group.Nat

/-!
# Binary indexed trees

A tree is an array whose cell at an index holds the sum of the values right below that index, as
many as the lowest one bit of the index counts. Adding to one value and summing a front of the
values visit one cell for each bit. `Represents` names the values behind a tree, and every
operation is stated by what it does to them.
-/

namespace Omairc.Fenwick

open Finset

/-- A number with only its lowest one bit. -/
def isolateLowestOne (number : Nat) : Nat :=
  if number = 0 then 0
  else if number % 2 = 1 then 1
  else 2 * isolateLowestOne (number / 2)
termination_by number
decreasing_by omega

theorem isolateLowestOne_odd (half : Nat) : isolateLowestOne (2 * half + 1) = 1 := by
  rw [isolateLowestOne, if_neg (by omega), if_pos (by omega)]

theorem isolateLowestOne_even {half : Nat} (positive : 0 < half) :
    isolateLowestOne (2 * half) = 2 * isolateLowestOne half := by
  rw [isolateLowestOne, if_neg (by omega), if_neg (by omega)]
  congr 2
  omega

/-- The lowest one bit of a positive number is positive and no more than the number. -/
theorem isolateLowestOne_bounds {number : Nat} (positive : 0 < number) :
    0 < isolateLowestOne number ∧ isolateLowestOne number ≤ number := by
  induction number using Nat.strong_induction_on with
  | _ number inductionHypothesis =>
      obtain ⟨half, rfl | rfl⟩ : ∃ half, number = 2 * half ∨ number = 2 * half + 1 :=
        ⟨number / 2, by omega⟩
      · have smaller := inductionHypothesis half (by omega) (by omega)
        rw [isolateLowestOne_even (by omega)]
        omega
      · rw [isolateLowestOne_odd]
        omega

/-- A number with its lowest one bit added is even. -/
theorem add_isolateLowestOne_even (number : Nat) : (number + isolateLowestOne number) % 2 = 0 := by
  obtain ⟨half, rfl | rfl⟩ : ∃ half, number = 2 * half ∨ number = 2 * half + 1 :=
    ⟨number / 2, by omega⟩
  · cases half with
    | zero => simp [isolateLowestOne]
    | succ half =>
        rw [isolateLowestOne_even (by omega)]
        omega
  · rw [isolateLowestOne_odd]
    omega

/-- The cells above a position that cover it are those that cover the next cell of its chain. -/
theorem covers_next {position index : Nat} (positive : 0 < position) (below : position < index) :
    index - isolateLowestOne index < position ↔
      index - isolateLowestOne index < position + isolateLowestOne position ∧
        position + isolateLowestOne position ≤ index := by
  induction index using Nat.strong_induction_on generalizing position with
  | _ index inductionHypothesis =>
      have even := add_isolateLowestOne_even position
      obtain ⟨half, rfl | rfl⟩ : ∃ half, index = 2 * half ∨ index = 2 * half + 1 :=
        ⟨index / 2, by omega⟩
      · have above : 0 < half := by omega
        rw [isolateLowestOne_even above]
        have inside := isolateLowestOne_bounds above
        obtain ⟨lower, rfl | rfl⟩ : ∃ lower, position = 2 * lower ∨ position = 2 * lower + 1 :=
          ⟨position / 2, by omega⟩
        · have apart : 0 < lower := by omega
          rw [isolateLowestOne_even apart]
          have halved := inductionHypothesis half (by omega) apart (by omega)
          omega
        · rw [isolateLowestOne_odd]
          omega
      · rw [isolateLowestOne_odd]
        omega

section Trees

universe u

variable {α : Type u} [AddCommMonoid α] {tree : List α} {values : Nat → α}

/-- The tree of `count` values, all zero. -/
def new (count : Nat) : List α := List.replicate (count + 1) 0

/-- Add to every cell of the chain that goes up from an index. -/
def addFrom (delta : α) (tree : List α) (index : Nat) : List α :=
  if inside : 0 < index ∧ index < tree.length then
    addFrom delta (tree.set index (tree[index] + delta))
      (index + isolateLowestOne index)
  else tree
termination_by tree.length - index
decreasing_by
  have := isolateLowestOne_bounds inside.1
  rw [List.length_set]
  omega

/-- Add to the value at an index. -/
def add (tree : List α) (index : Nat) (delta : α) : List α := addFrom delta tree (index + 1)

/-- Sum the cells of the chain that goes down from an index. -/
def sumFrom (tree : List α) (index : Nat) : α :=
  if inside : 0 < index ∧ index < tree.length then
    tree[index] + sumFrom tree (index - isolateLowestOne index)
  else 0
termination_by index
decreasing_by
  have := isolateLowestOne_bounds inside.1
  omega

/-- The sum of the values up to an index, that index included. -/
def prefixSum (tree : List α) (index : Nat) : α := sumFrom tree (index + 1)

/-- The values that a tree holds: each cell is the sum of the values right below it. -/
def Represents (tree : List α) (values : Nat → α) : Prop :=
  ∀ index cell, 0 < index → tree[index]? = some cell →
    cell = ∑ place ∈ Ico (index - isolateLowestOne index) index, values place

theorem represents_new (count : Nat) : Represents (new count : List α) fun _ => 0 := by
  intro index cell _ found
  rw [new, List.getElem?_replicate] at found
  split at found
  · rw [← Option.some_inj.mp found, Finset.sum_const_zero]
  · cases found

/-- The values behind the last cell do not matter. -/
theorem Represents.congr {other : Nat → α} (held : Represents tree values)
    (agree : ∀ place, place + 1 < tree.length → values place = other place) :
    Represents tree other := by
  intro index cell positive found
  have inside := (List.getElem?_eq_some_iff.mp found).1
  rw [held index cell positive found]
  refine Finset.sum_congr rfl fun place listed => agree place ?_
  have bounds := Finset.mem_Ico.mp listed
  omega

@[simp] theorem addFrom_length (delta : α) (tree : List α) (index : Nat) :
    (addFrom delta tree index).length = tree.length := by
  fun_induction addFrom delta tree index with
  | case1 tree index inside inductionHypothesis =>
      rw [inductionHypothesis, List.length_set]
  | case2 => rfl

@[simp] theorem add_length (tree : List α) (index : Nat) (delta : α) :
    (add tree index delta).length = tree.length := addFrom_length delta tree (index + 1)

/-- The chain up from a position changes the cells that cover it, and no others. -/
theorem addFrom_getElem? (delta : α) (tree : List α) (position : Nat) (positive : 0 < position)
    (index : Nat) :
    (addFrom delta tree position)[index]? = tree[index]?.map fun cell =>
      if index - isolateLowestOne index < position ∧ position ≤ index then cell + delta
      else cell := by
  fun_induction addFrom delta tree position with
  | case1 tree position inside inductionHypothesis =>
      have bounds := isolateLowestOne_bounds positive
      rw [inductionHypothesis (by omega), List.getElem?_set]
      rcases Nat.lt_trichotomy position index with below | rfl | above
      · rw [if_neg (by omega)]
        have covered := covers_next positive below
        congr 1
        funext cell
        exact if_congr (by omega) rfl rfl
      · rw [if_pos rfl, if_pos inside.2, List.getElem?_eq_getElem inside.2, Option.map_some,
          Option.map_some, if_neg (by omega), if_pos (by omega)]
      · rw [if_neg (by omega)]
        congr 1
        funext cell
        rw [if_neg (by omega), if_neg (by omega)]
  | case2 tree position outside =>
      cases found : tree[index]? with
      | none => rfl
      | some cell =>
          have inside := (List.getElem?_eq_some_iff.mp found).1
          rw [Option.map_some, if_neg (by omega)]

/-- Adding at an index adds to that value only. -/
theorem represents_add (held : Represents tree values) (place : Nat) (delta : α) :
    Represents (add tree place delta)
      (Function.update values place (values place + delta)) := by
  intro index cell positive found
  rw [add, addFrom_getElem? delta tree (place + 1) (Nat.succ_pos place)] at found
  obtain ⟨before, was, rfl⟩ := Option.map_eq_some_iff.mp found
  have sum := held index before positive was
  by_cases covered : place ∈ Ico (index - isolateLowestOne index) index
  · have bounds := Finset.mem_Ico.mp covered
    rw [if_pos (by omega), sum, Finset.sum_update_of_mem covered,
      Finset.sdiff_singleton_eq_erase, ← Finset.add_sum_erase _ values covered, add_right_comm]
  · have outside : ¬ (index - isolateLowestOne index ≤ place ∧ place < index) :=
      fun both => covered (Finset.mem_Ico.mpr both)
    rw [if_neg (by omega), sum, Finset.sum_update_of_notMem covered]

/-- The chain down from an index sums all values below it. -/
theorem sumFrom_eq (held : Represents tree values) (index : Nat) (inside : index < tree.length) :
    sumFrom tree index = ∑ place ∈ range index, values place := by
  induction index using Nat.strong_induction_on with
  | _ index inductionHypothesis =>
      rw [sumFrom]
      by_cases positive : 0 < index
      · have bounds := isolateLowestOne_bounds positive
        rw [dif_pos ⟨positive, inside⟩, inductionHypothesis _ (by omega) (by omega),
          held index _ positive (List.getElem?_eq_getElem inside), add_comm,
          Finset.sum_range_add_sum_Ico values (by omega)]
      · rw [dif_neg (fun both => positive both.1), Nat.eq_zero_of_not_pos positive,
          Finset.sum_range_zero]

/-- A prefix sum is the sum of the values up to its index. -/
theorem prefixSum_eq (held : Represents tree values) {index : Nat}
    (inside : index + 1 < tree.length) :
    prefixSum tree index = ∑ place ∈ range (index + 1), values place :=
  sumFrom_eq held (index + 1) inside

end Trees

end Omairc.Fenwick
