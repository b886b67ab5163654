/-!
# Guarded runs

A transition system is a partial step function on labels. `Runs` collects the states
that steps meeting a guard reach; a guard that always holds gives every run. An
invariant is proved once for one step and carried over runs by `Runs.invariant`, and
a relation between the ends of a run by `Runs.relate`.
-/

namespace Omairc.Semantics

universe u v w

variable {State : Type u} {Label : Type v}

/-- The guard that every step meets. -/
def unguarded : State → Label → Prop := fun _ _ => True

/-- Zero or more steps, each of which meets the guard where it starts. -/
inductive Runs (step : State → Label → Option State) (guard : State → Label → Prop)
    (start : State) : State → Prop where
  | refl : Runs step guard start start
  | step {current : State} {label : Label} {next : State} (prior : Runs step guard start current)
      (allowed : guard current label) (transition : step current label = some next) :
      Runs step guard start next

/-- Take the labels in order. There is no result when one of them cannot happen. -/
def runAll (step : State → Label → Option State) : State → List Label → Option State
  | state, [] => some state
  | state, label :: rest => (step state label).bind fun next => runAll step next rest

/-- Take the labels in order while each meets the guard where it is taken. -/
def runGuarded (step : State → Label → Option State) (guard : State → Label → Prop)
    [∀ state label, Decidable (guard state label)] : State → List Label → Option State
  | state, [] => some state
  | state, label :: rest =>
      if guard state label then
        (step state label).bind fun next => runGuarded step guard next rest
      else none

namespace Runs

variable {step : State → Label → Option State} {guard : State → Label → Prop}
  {start middle final : State}

/-- Two runs that meet compose. -/
theorem trans (first : Runs step guard start middle) (second : Runs step guard middle final) :
    Runs step guard start final := by
  induction second with
  | refl => exact first
  | step prior allowed transition inductionHypothesis =>
      exact .step inductionHypothesis allowed transition

/-- A run under a guard is one under every weaker guard. -/
theorem mono {weaker : State → Label → Prop}
    (implies : ∀ state label, guard state label → weaker state label)
    (runs : Runs step guard start final) : Runs step weaker start final := by
  induction runs with
  | refl => exact .refl
  | step prior allowed transition inductionHypothesis =>
      exact .step inductionHypothesis (implies _ _ allowed) transition

/-- What holds at the start and is kept by every step that meets the guard holds at the
end of every run. -/
theorem invariant (Invariant : State → Prop) (holds : Invariant start)
    (preserved : ∀ {current label next}, Invariant current → guard current label →
      step current label = some next → Invariant next)
    (runs : Runs step guard start final) : Invariant final := by
  induction runs with
  | refl => exact holds
  | step prior allowed transition inductionHypothesis =>
      exact preserved inductionHypothesis allowed transition

/-- A reflexive and transitive relation that every step from an invariant state meets
relates the two ends of a run. -/
theorem relate (Invariant : State → Prop) (Related : State → State → Prop)
    (holds : Invariant start)
    (preserved : ∀ {current label next}, Invariant current → guard current label →
      step current label = some next → Invariant next)
    (reflexive : ∀ state, Related state state)
    (transitive : ∀ {first second third}, Related first second → Related second third →
      Related first third)
    (related : ∀ {current label next}, Invariant current → guard current label →
      step current label = some next → Related current next)
    (runs : Runs step guard start final) : Related start final := by
  induction runs with
  | refl => exact reflexive start
  | step prior allowed transition inductionHypothesis =>
      exact transitive inductionHypothesis
        (related (prior.invariant Invariant holds preserved) allowed transition)

/-- A list of labels that can be taken is a run. -/
theorem of_runAll {labels : List Label} (taken : runAll step start labels = some final) :
    Runs step unguarded start final := by
  induction labels generalizing start with
  | nil =>
      cases taken
      exact .refl
  | cons label rest inductionHypothesis =>
      obtain ⟨next, transition, tail⟩ := Option.bind_eq_some_iff.mp taken
      exact (Runs.refl.step trivial transition).trans (inductionHypothesis tail)

/-- A list of labels that meet the guard where they are taken is a guarded run. -/
theorem of_runGuarded [∀ state label, Decidable (guard state label)] {labels : List Label}
    (taken : runGuarded step guard start labels = some final) : Runs step guard start final := by
  induction labels generalizing start with
  | nil =>
      cases taken
      exact .refl
  | cons label rest inductionHypothesis =>
      rw [runGuarded] at taken
      split at taken
      · rename_i allowed
        obtain ⟨next, transition, tail⟩ := Option.bind_eq_some_iff.mp taken
        exact (Runs.refl.step allowed transition).trans (inductionHypothesis tail)
      · cases taken

end Runs

end Omairc.Semantics
