import Omairc.Semantics.Execution

/-!
# Monitored runs

A monitor keeps a record beside the states of a transition system, and adds to it at
every step. Each run has a record, and forgetting the record leaves the run, so a
monitor observes a system without changing what it can do.
-/

namespace Omairc.Semantics

universe u v w

variable {State : Type u} {Label : Type v} {Record : Type w}

/-- A record to start from, and what a step adds to it. -/
structure Monitor (State : Type u) (Label : Type v) (Record : Type w) where
  initially : Record
  watch : Record → State → Label → State → Record

namespace Monitor

variable (monitor : Monitor State Label Record) (step : State → Label → Option State)

/-- The system with the record beside each state. -/
def transition (current : State × Record) (label : Label) : Option (State × Record) :=
  (step current.1 label).map fun next => (next, monitor.watch current.2 current.1 label next)

/-- The state and the record at the end of a run whose steps meet a guard. -/
def Observes (guard : State × Record → Label → Prop) (start : State) (final : State)
    (record : Record) : Prop :=
  Runs (monitor.transition step) guard (start, monitor.initially) (final, record)

variable {monitor step} {start final : State} {record : Record}

namespace Observes

variable {guard : State × Record → Label → Prop}

/-- What is observed is a run of the system. -/
theorem runs (observed : monitor.Observes step guard start final record) :
    Runs step unguarded start final := by
  suffices reached : ∀ {current : State × Record},
      Runs (monitor.transition step) guard (start, monitor.initially) current →
        Runs step unguarded start current.1 from reached observed
  intro current observed
  induction observed with
  | refl => exact .refl
  | step prior allowed stepped inductionHypothesis =>
      obtain ⟨next, taken, same⟩ := Option.map_eq_some_iff.mp stepped
      subst same
      exact inductionHypothesis.step trivial taken

/-- What holds of the start and of the first record, and is kept by every step that meets
the guard, holds of what is observed. -/
theorem invariant (Invariant : State → Record → Prop)
    (holds : Invariant start monitor.initially)
    (preserved : ∀ {current : State} {record : Record} {label : Label} {next : State},
      Invariant current record → guard (current, record) label → step current label = some next →
        Invariant next (monitor.watch record current label next))
    (observed : monitor.Observes step guard start final record) : Invariant final record := by
  refine Runs.invariant (fun current : State × Record => Invariant current.1 current.2) holds ?_
    observed
  rintro ⟨current, record⟩ label next kept allowed stepped
  obtain ⟨arrived, taken, same⟩ := Option.map_eq_some_iff.mp stepped
  subst same
  exact preserved kept allowed taken

end Observes

end Monitor

end Omairc.Semantics
