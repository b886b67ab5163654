import Omairc.Net.Conversation

/-!
# The invariant of the hub

What a worker can do to its record, how the transport's state follows the stage its
worker had reached when an event was reported, and the invariant that ties transports,
commands, workers and the record together.
-/

namespace Omairc.Net

open Omairc.Text Omairc.Session

/-! ## Workers -/

/-- The stage an event leaves a task at. -/
def Stage.after (tls : Bool) : Stage → IoEvent → Option Stage
  | .dialing, .connected => some (if tls then .handshaking else .pumping)
  | .dialing, .failed _ => some .ended
  | .handshaking, .encrypted => some .pumping
  | .handshaking, .failed _ => some .ended
  | .pumping, .bytes _ | .pumping, .closed | .pumping, .failed _ => some .pumping
  | _, _ => none

/-- The stage a list of events leaves a task at. -/
def Stage.walk (tls : Bool) (stage : Stage) : List IoEvent → Option Stage
  | [] => some stage
  | event :: rest => (stage.after tls event).bind fun next => next.walk tls rest

theorem Stage.walk_append (tls : Bool) (stage : Stage) (first second : List IoEvent) :
    stage.walk tls (first ++ second) =
      (stage.walk tls first).bind fun next => next.walk tls second := by
  induction first generalizing stage with
  | nil => rfl
  | cons event rest inductionHypothesis =>
      simp only [List.cons_append, walk, Option.bind_assoc]
      congr 1
      funext next
      exact inductionHypothesis next

/-- The events that wait for the UI thread lead from the stage it knows of to the stage
the task is at. A task may also be over without a word. -/
def Worker.LeadsFrom (worker : Worker) (known : Stage) : Prop :=
  ∃ last, known.walk worker.tls worker.events = some last ∧
    (worker.stage = last ∨ worker.stage = .ended)

/-- A change of a worker that keeps its tag and its frames in order, and never leaves the
end. -/
structure Kept (worker moved : Worker) : Prop where
  tag : moved.tag = worker.tag
  tls : moved.tls = worker.tls
  frames : moved.wire ++ moved.queue = worker.wire ++ worker.queue
  ended : worker.stage = .ended → moved.stage = .ended

/-- What a task does on its own also keeps the reading of its events. -/
structure Moved (worker moved : Worker) : Prop extends Kept worker moved where
  leads : ∀ known, worker.LeadsFrom known → moved.LeadsFrom known

theorem Worker.LeadsFrom.of_ended {worker moved : Worker} {known : Stage}
    (leads : worker.LeadsFrom known) (tls : moved.tls = worker.tls)
    (events : moved.events = worker.events) (ended : moved.stage = .ended) :
    moved.LeadsFrom known := by
  obtain ⟨last, walked, _⟩ := leads
  exact ⟨last, by rw [tls, events]; exact walked, .inr ended⟩

theorem Worker.progress_effect {worker moved : Worker} {event : IoEvent}
    (progressed : worker.progress event = some moved) :
    worker.stage.after worker.tls event = some moved.stage ∧ worker.stage ≠ .ended ∧
      moved.tag = worker.tag ∧ moved.tls = worker.tls ∧ moved.queue = worker.queue ∧
      moved.wire = worker.wire ∧ moved.events = worker.events := by
  unfold Worker.progress at progressed
  split at progressed <;> rename_i stage
  · rw [stage]
    cases progressed
    cases secured : worker.tls <;> simp [secured, Stage.after, Worker.pump]
  · rw [stage]
    cases progressed
    exact ⟨rfl, by simp, rfl, rfl, rfl, rfl, rfl⟩
  · rw [stage]
    cases progressed
    exact ⟨rfl, by simp, rfl, rfl, rfl, rfl, rfl⟩
  · rw [stage]
    cases progressed
    exact ⟨rfl, by simp, rfl, rfl, rfl, rfl, rfl⟩
  · split at progressed <;> cases progressed
    rw [stage]
    exact ⟨rfl, by simp, rfl, rfl, rfl, rfl, rfl⟩
  · split at progressed <;> cases progressed
    rw [stage]
    exact ⟨rfl, by simp, rfl, rfl, rfl, rfl, rfl⟩
  · split at progressed <;> cases progressed
    rw [stage]
    exact ⟨rfl, by simp, rfl, rfl, rfl, rfl, rfl⟩
  · cases progressed

theorem Moved.of_report {worker moved : Worker} {event : IoEvent}
    (reported : worker.report event = some moved) : Moved worker moved := by
  obtain ⟨progressed, progress, rfl⟩ := Option.map_eq_some_iff.mp reported
  obtain ⟨stage, running, tag, tls, queue, wire, events⟩ := Worker.progress_effect progress
  refine ⟨⟨tag, tls, by rw [queue, wire], fun ended => absurd ended running⟩, ?_⟩
  rintro known ⟨last, walked, reached⟩
  have arrived := reached.resolve_right running
  refine ⟨progressed.stage, ?_, .inl rfl⟩
  show known.walk progressed.tls (progressed.events ++ [event]) = _
  rw [tls, events, Stage.walk_append, walked, Option.bind_some, ← arrived, Stage.walk, stage]
  rfl

theorem Moved.of_failWrite {worker moved : Worker} {error : TransportError}
    (failed : worker.failWrite error = some moved) : Moved worker moved := by
  unfold Worker.failWrite at failed
  split at failed <;> cases failed
  rename_i pumping
  refine ⟨⟨rfl, rfl, rfl, id⟩, ?_⟩
  rintro known ⟨last, walked, reached⟩
  have arrived : worker.stage = last :=
    reached.resolve_right fun ended => by simp [ended] at pumping
  refine ⟨.pumping, ?_, .inl pumping.1⟩
  show known.walk worker.tls (worker.events ++ [.failed error]) = _
  rw [Stage.walk_append, walked, Option.bind_some, ← arrived, pumping.1]
  rfl

/-- A change of the flags alone moves a worker. -/
theorem Moved.of_flags {worker moved : Worker} (tag : moved.tag = worker.tag)
    (tls : moved.tls = worker.tls) (stage : moved.stage = worker.stage)
    (events : moved.events = worker.events)
    (frames : moved.wire ++ moved.queue = worker.wire ++ worker.queue) : Moved worker moved := by
  refine ⟨⟨tag, tls, frames, fun ended => stage.trans ended⟩, ?_⟩
  rintro known ⟨last, walked, reached⟩
  exact ⟨last, by rw [tls, events]; exact walked, by rw [stage]; exact reached⟩

theorem Moved.of_writeFrame {worker moved : Worker}
    (wrote : worker.writeFrame = some moved) : Moved worker moved := by
  unfold Worker.writeFrame at wrote
  split at wrote
  · cases wrote
  · rename_i frame rest queue
    split at wrote <;> cases wrote
    refine .of_flags rfl rfl rfl rfl ?_
    rw [queue, List.append_assoc]
    rfl

theorem Moved.of_sayGoodbye {worker moved : Worker}
    (said : worker.sayGoodbye = some moved) : Moved worker moved := by
  unfold Worker.sayGoodbye at said
  split at said <;> cases said
  exact .of_flags rfl rfl rfl rfl rfl

theorem Moved.of_ends {worker moved : Worker} (ended : worker.ends = some moved) :
    Moved worker moved := by
  unfold Worker.ends at ended
  split at ended <;> cases ended
  exact ⟨⟨rfl, rfl, rfl, fun _ => rfl⟩, fun _ leads => leads.of_ended rfl rfl rfl⟩

theorem Moved.of_dies {worker moved : Worker} (died : worker.dies = some moved) :
    Moved worker moved := by
  unfold Worker.dies at died
  split at died <;> cases died
  exact ⟨⟨rfl, rfl, rfl, fun _ => rfl⟩, fun _ leads => leads.of_ended rfl rfl rfl⟩

theorem Moved.abort (worker : Worker) : Moved worker worker.abort :=
  .of_flags rfl rfl rfl rfl rfl

theorem Moved.windDown (worker : Worker) : Moved worker worker.windDown := by
  unfold Worker.windDown
  split
  · exact .of_flags rfl rfl rfl rfl rfl
  · exact .abort worker

/-! ## Transport and worker -/

/-- What the state of a transport and the phase of its conversation are when the events
it took brought its worker to a stage. -/
def Matches (tls : Bool) (state : ConnectionState) (phase : Phase) : Stage → Prop
  | .dialing => state = .connecting ∧ phase = .waiting
  | .handshaking => tls = true ∧ state = .connected ∧ phase = .connected
  | .pumping =>
      (state = .disconnected ∨ state = .failed) ∧ phase = .ended ∨
        (tls = false ∧ state = .connected ∧ (phase = .connected ∨ phase = .reading)) ∨
        (tls = true ∧ state = .encrypted ∧ (phase = .encrypted ∨ phase = .reading))
  | .ended => (state = .disconnected ∨ state = .failed) ∧ phase = .ended

/-- An event the transport drops leaves it in step with the worker. -/
theorem Matches.ignored {inner : Inner} {phase : Phase} {known next : Stage} {event : IoEvent}
    (inStep : Matches inner.tlsOn inner.state phase known)
    (after : known.after inner.tlsOn event = some next)
    (ignored : transition inner event = none) :
    Matches inner.tlsOn inner.state phase next := by
  cases known <;> cases event <;> simp only [Stage.after, reduceCtorEq] at after <;>
    cases after <;> simp only [Matches] at inStep
  all_goals
    simp only [transition] at ignored
    split at ignored <;> try cases ignored
    rename_i refused
  · exact absurd inStep.1 refused
  · rw [inStep.1] at refused
    exact absurd rfl refused
  · exact absurd ⟨inStep.2.1, inStep.1⟩ refused
  · rw [inStep.2.1] at refused
    exact absurd rfl refused
  all_goals exact inStep

/-- An event the transport takes is the next callback of the conversation, and leaves it
in step with the worker. -/
theorem Matches.taken {inner moved : Inner} {phase : Phase} {known next : Stage}
    {event : IoEvent} {notice : Notice}
    (inStep : Matches inner.tlsOn inner.state phase known)
    (after : known.after inner.tlsOn event = some next)
    (taken : transition inner event = some (notice, moved)) :
    ∃ later, phase.next notice = some later ∧ Matches moved.tlsOn moved.state later next := by
  have frame := (transition_frame taken).2.1
  rw [frame]
  cases known <;> cases event <;> simp only [Stage.after, reduceCtorEq] at after <;>
    cases after <;> simp only [Matches] at inStep
  all_goals
    simp only [transition] at taken
    split at taken <;> cases taken
  · obtain ⟨_, rfl⟩ := inStep
    refine ⟨.connected, rfl, ?_⟩
    cases secured : inner.tlsOn
    · exact .inr (.inl ⟨rfl, rfl, .inl rfl⟩)
    · exact ⟨rfl, rfl, rfl⟩
  · obtain ⟨_, rfl⟩ := inStep
    exact ⟨.ended, rfl, .inr rfl, rfl⟩
  · obtain ⟨secured, _, rfl⟩ := inStep
    exact ⟨.encrypted, rfl, .inr (.inr ⟨secured, rfl, .inl rfl⟩)⟩
  · obtain ⟨_, _, rfl⟩ := inStep
    exact ⟨.ended, rfl, .inr rfl, rfl⟩
  · rename_i opened
    obtain ⟨finished | finished, _⟩ | ⟨plain, state, rfl | rfl⟩ | ⟨secured, state, rfl | rfl⟩ :=
      inStep
    · rw [finished] at opened
      cases opened
    · rw [finished] at opened
      cases opened
    · exact ⟨.reading, rfl, .inr (.inl ⟨plain, state, .inr rfl⟩)⟩
    · exact ⟨.reading, rfl, .inr (.inl ⟨plain, state, .inr rfl⟩)⟩
    · exact ⟨.reading, rfl, .inr (.inr ⟨secured, state, .inr rfl⟩)⟩
    · exact ⟨.reading, rfl, .inr (.inr ⟨secured, state, .inr rfl⟩)⟩
  · rename_i opened
    obtain ⟨finished | finished, _⟩ | ⟨_, _, rfl | rfl⟩ | ⟨_, _, rfl | rfl⟩ := inStep
    · rw [finished] at opened
      cases opened
    · rw [finished] at opened
      cases opened
    all_goals exact ⟨.ended, rfl, .inl ⟨.inl rfl, rfl⟩⟩
  · rename_i opened
    obtain ⟨finished | finished, _⟩ | ⟨_, _, rfl | rfl⟩ | ⟨_, _, rfl | rfl⟩ := inStep
    · rw [finished] at opened
      cases opened
    · rw [finished] at opened
      cases opened
    all_goals exact ⟨.ended, rfl, .inl ⟨.inr rfl, rfl⟩⟩

/-- While a connection is in flight its conversation can still end. -/
theorem Matches.can_end {tls : Bool} {state : ConnectionState} {phase : Phase} {known : Stage}
    (inStep : Matches tls state phase known) (running : state.inFlight = true) :
    phase.next .disconnected = some .ended := by
  cases known <;> simp only [Matches] at inStep
  · rw [inStep.2]
    rfl
  · rw [inStep.2.2]
    rfl
  · obtain ⟨rfl | rfl, _⟩ | ⟨_, _, rfl | rfl⟩ | ⟨_, _, rfl | rfl⟩ := inStep
    · cases running
    · cases running
    all_goals rfl
  · obtain ⟨rfl | rfl, _⟩ := inStep <;> cases running

end Omairc.Net
