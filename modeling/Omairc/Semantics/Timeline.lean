import Mathlib.Logic.Function.Iterate

/-!
# A value with a past and a future

A timeline is a value among the ones it was before and the ones it was taken back from, the nearest
first. Going back and going forward undo one another, and whatever is done, what the timeline
began with stays at its far end.
-/

namespace Omairc.Semantics

universe u

variable {α : Type u}

/-- A value, the ones before it and the ones after it. -/
@[ext]
structure Timeline (α : Type u) where
  past : List α
  present : α
  future : List α

namespace Timeline

/-- Go back by one. At the beginning nothing changes. -/
def back (line : Timeline α) : Timeline α :=
  match line.past with
  | [] => line
  | before :: past => ⟨past, before, line.present :: line.future⟩

/-- Go forward by one. At the end nothing changes. -/
def forward (line : Timeline α) : Timeline α :=
  match line.future with
  | [] => line
  | after :: future => ⟨line.present :: line.past, after, future⟩

/-- A new present. The old one is past, and the future is gone. -/
def commit (line : Timeline α) (present : α) : Timeline α := ⟨line.present :: line.past, present, []⟩

/-- Another present in the place of this one. -/
def amend (line : Timeline α) (present : α) : Timeline α := { line with present }

/-- What a timeline began with. -/
def origin (line : Timeline α) : α := line.past.getLast?.getD line.present

theorem forward_back {line : Timeline α} (full : line.past ≠ []) : line.back.forward = line := by
  obtain ⟨past, present, future⟩ := line
  cases past with
  | nil => exact absurd rfl full
  | cons before past => rfl

theorem back_past (line : Timeline α) : line.back.past = line.past.tail := by
  obtain ⟨past, present, future⟩ := line
  cases past with
  | nil => rfl
  | cons before past => rfl

/-- Going back a number of times leaves that much less of the past. -/
theorem iterate_back_past (line : Timeline α) (count : Nat) :
    (back^[count] line).past = line.past.drop count := by
  induction count generalizing line with
  | zero => rfl
  | succ count inductionHypothesis =>
      rw [Function.iterate_succ_apply, inductionHypothesis, back_past, List.drop_tail]

/-- As often as there is a past to go back to, going forward again leads to the same timeline. -/
theorem iterate_forward_back {line : Timeline α} {count : Nat} (within : count ≤ line.past.length) :
    forward^[count] (back^[count] line) = line := by
  induction count with
  | zero => rfl
  | succ count inductionHypothesis =>
      have full : (back^[count] line).past ≠ [] := by
        intro empty
        rw [iterate_back_past, List.drop_eq_nil_iff] at empty
        omega
      rw [Function.iterate_succ_apply, Function.iterate_succ_apply', forward_back full]
      exact inductionHypothesis (by omega)

@[simp] theorem origin_back (line : Timeline α) : line.back.origin = line.origin := by
  obtain ⟨past, present, future⟩ := line
  cases past with
  | nil => rfl
  | cons before past =>
      cases past with
      | nil => rfl
      | cons earlier past => rfl

@[simp] theorem origin_forward (line : Timeline α) : line.forward.origin = line.origin := by
  obtain ⟨past, present, future⟩ := line
  cases future with
  | nil => rfl
  | cons after future =>
      cases past with
      | nil => rfl
      | cons before past => rfl

@[simp] theorem origin_commit (line : Timeline α) (present : α) :
    (line.commit present).origin = line.origin := by
  obtain ⟨past, before, future⟩ := line
  cases past with
  | nil => rfl
  | cons earlier past => rfl

/-- What was begun with is kept when there is a past. -/
theorem origin_amend (line : Timeline α) (full : line.past ≠ []) (present : α) :
    (line.amend present).origin = line.origin := by
  obtain ⟨past, before, future⟩ := line
  cases past with
  | nil => exact absurd rfl full
  | cons earlier past =>
      rw [origin, origin, amend, List.getLast?_cons, Option.getD_some, Option.getD_some]

theorem iterate_back_origin (line : Timeline α) (count : Nat) :
    (back^[count] line).origin = line.origin := by
  induction count generalizing line with
  | zero => rfl
  | succ count inductionHypothesis =>
      rw [Function.iterate_succ_apply, inductionHypothesis, origin_back]

/-- Going back as far as there is a past leads to what was begun with. -/
theorem iterate_back_present {line : Timeline α} {count : Nat} (far : line.past.length ≤ count) :
    (back^[count] line).present = line.origin := by
  have empty : (back^[count] line).past = [] := by
    rw [iterate_back_past]
    exact List.drop_eq_nil_of_le far
  have same := iterate_back_origin line count
  rw [origin, empty] at same
  exact same

end Timeline

end Omairc.Semantics
