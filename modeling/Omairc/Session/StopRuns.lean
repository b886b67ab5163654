import Omairc.Session.LinkRuns

/-!
# A stop lasts

A stop leaves at most the shutdown and its settling to do. Until the next start the session then
takes no line and asks for no connection, whatever its owner, its timers and the transport do.
-/

namespace Omairc.Session

open Omairc.Text Omairc.Irc

namespace Core

variable (core : Core)

theorem stopping_state : core.stopping.state = core.state :=
  (congrArg Control.state core.stopping_toControl :).trans
    (congrArg Control.state core.rescheduleStsExpiry_control :)

/-- A stop of a session between connections settles at once. -/
theorem stop_of_rests (resting : core.state.rests = true) :
    core.stop.state = .idle ∧ core.stop.effects = core.effects := by
  rw [stop_eq]
  split_ifs with idle gone
  · exact ⟨core.stopping_state.trans idle, core.stopping_effects⟩
  · exact ⟨congrArg Control.state (core.stopping.setState_toControl .idle), by simp⟩
  · exfalso
    revert resting idle gone
    cases core.state <;> simp [SessionState.rests]

/-- A stop of a running session shuts its connection down, and settles then. -/
theorem stop_of_running (running : core.state.rests = false) :
    core.stop.state = .closing ∧
      core.stop.effects = core.effects ++ [.shutdown, .settleStop] := by
  rw [stop_eq]
  split_ifs with idle gone
  · rw [idle] at running
    cases running
  · rcases gone with gone | gone <;> rw [gone] at running <;> cases running
  · refine ⟨?_, by simp⟩
    rw [queue_toControl, queue_toControl]
    exact congrArg Control.state (core.stopping.setState_toControl .closing)

end Core

/-- A session that was stopped has no timer that acts on it, and takes a disconnect for its own. -/
structure Ended (core : Core) : Prop where
  intent : core.connection.intent = .stopping
  capability : core.timers .capability = none
  registration : core.timers .registration = none

/-- A stopped session that has come to rest. -/
structure Rested (core : Core) : Prop extends Ended core where
  idle : core.state = .idle
  quiet : core.effects = []

namespace Ended

variable {core changed : Core}

theorem of_same (ended : Ended core) (connection : changed.connection = core.connection)
    (timers : changed.timers = core.timers) : Ended changed where
  intent := (congrArg Connection.intent connection).trans ended.intent
  capability := (congrFun timers _).trans ended.capability
  registration := (congrFun timers _).trans ended.registration

theorem setState (ended : Ended core) (state : SessionState) : Ended (core.setState state) :=
  ended.of_same (congrArg Control.connection (core.setState_toControl state) :)
    (core.setState_timers state)

theorem queue (ended : Ended core) (effect : Effect) : Ended (core.queue effect) :=
  ended.of_same (congrArg Control.connection (core.queue_toControl effect) :)
    (core.queue_timers effect)

theorem stop (core : Core) : Ended core.stop := by
  have stopping : Ended core.stopping := by
    refine ⟨?_, core.stopping_timers _, core.stopping_timers _⟩
    rw [(congrArg Control.connection core.stopping_toControl :)]
    rfl
  rw [Core.stop_eq]
  split_ifs
  · exact stopping
  · exact stopping.setState .idle
  · exact ((stopping.setState .closing).queue .shutdown).queue .settleStop

/-- A disconnect settles a stop. -/
theorem onDisconnected (ended : Ended core) (resting : core.state = .idle ∨ core.state = .closing) :
    Ended core.onDisconnected ∧ core.onDisconnected.state = .idle ∧
      core.onDisconnected.effects = core.effects ∧
      core.onDisconnected.transport = core.transport := by
  have same := core.rescheduleStsExpiry_control
  have refreshed : Ended core.rescheduleStsExpiry :=
    ended.of_same (congrArg Control.connection same :) core.rescheduleStsExpiry_timers
  have transport : core.rescheduleStsExpiry.transport = core.transport :=
    (congrArg Control.transport same :)
  have change := core.onDisconnected_change
  revert change
  generalize core.onDisconnected = settled
  intro change
  cases change with
  | upgraded unexpected => exact absurd (ended.intent.symm.trans unexpected) (by decide)
  | retried retrying => exact absurd (ended.intent.symm.trans retrying) (by decide)
  | settled stopping closing =>
      have moved := core.rescheduleStsExpiry.setState_toControl .idle
      exact ⟨refreshed.setState .idle, (congrArg Control.state moved :), by simp,
        (congrArg Control.transport moved :).trans transport⟩
  | ignored stopping running =>
      exact ⟨refreshed, (congrArg Control.state same :).trans (resting.resolve_right running),
        by simp, transport⟩
  | failed unexpected => exact absurd (ended.intent.symm.trans unexpected) (by decide)

end Ended

namespace Rested

variable {core changed : Core}

theorem of_same (rested : Rested core) (connection : changed.connection = core.connection)
    (timers : changed.timers = core.timers) (state : changed.state = core.state)
    (effects : changed.effects = core.effects) : Rested changed :=
  { rested.toEnded.of_same connection timers with
    idle := state.trans rested.idle
    quiet := effects.trans rested.quiet }

theorem of_peripheral {Allowed : Bytes → Prop} (rested : Rested core)
    (change : Peripheral Allowed core changed) : Rested changed where
  intent := by
    rw [(congrArg Control.connection change.control :)]
    exact rested.intent
  capability := (change.timers .capability (by decide)).trans rested.capability
  registration := (change.timers .registration (by decide)).trans rested.registration
  idle := change.state.trans rested.idle
  quiet := by
    have unregistered : core.state ≠ .registered := by
      rw [rested.idle]
      decide
    exact (change.effects_of_unregistered unregistered).trans rested.quiet

theorem stop (rested : Rested core) : Rested core.stop := by
  have resting : core.state.rests = true := by
    rw [rested.idle]
    rfl
  obtain ⟨state, effects⟩ := core.stop_of_rests resting
  exact { Ended.stop core with idle := state, quiet := effects.trans rested.quiet }

/-- A timer that is disarmed leaves a session at rest there. -/
theorem cancelTimer (rested : Rested core) (slot : TimerSlot) : Rested (core.cancelTimer slot) :=
  ⟨⟨rested.intent, core.cancelTimer_timers_eq_none rested.capability,
    core.cancelTimer_timers_eq_none rested.registration⟩, rested.idle, rested.quiet⟩

theorem timerFired (rested : Rested core) (slot : TimerSlot) (id : Nat) :
    Rested (core.timerFired slot id) := by
  have disarmed := rested.cancelTimer slot
  unfold Core.timerFired
  split
  · exact rested
  · rename_i current
    cases slot with
    | reconnect =>
        simp only
        rw [Core.beginReconnectAttempt_eq, if_pos (by rw [disarmed.idle]; decide)]
        exact disarmed
    | capability => exact absurd (by rw [rested.capability]; rfl) current
    | registration => exact absurd (by rw [rested.registration]; rfl) current
    | ping =>
        simp only [Core.onPingWatchdogFired]
        rw [if_pos (by rw [disarmed.idle]; decide)]
        exact disarmed
    | label => exact disarmed.of_peripheral (Core.onLabelTimerFired_peripheral _)

variable [Platform]

/-- Without a connection no entry but a start moves a session at rest. -/
theorem entry {action : Action} {entered : Core} (rested : Rested core)
    (unconnected : core.transport.state.inFlight = false) (entry : Entry core action entered)
    (going : action ≠ .start) : Rested entered ∧ entered.transport = core.transport := by
  have alive {state : ConnectionState} (found : core.transport.state = state)
      (inFlight : state.inFlight = true) : Rested entered ∧ entered.transport = core.transport := by
    rw [found, inFlight] at unconnected
    cases unconnected
  have peripheral {Allowed : Bytes → Prop} (change : Peripheral Allowed core entered) :
      Rested entered ∧ entered.transport = core.transport :=
    ⟨rested.of_peripheral change, (congrArg Control.transport change.control :)⟩
  cases entry with
  | start => exact absurd rfl going
  | stop =>
      have kept : LinkKept False core core.stop := core.stop_kept
      exact ⟨rested.stop, kept.transport⟩
  | quit reason =>
      unfold Core.quit
      rw [if_pos rested.idle]
      exact ⟨rested, rfl⟩
  | send operation => exact peripheral (core.send_peripheral operation)
  | startLabeledRequest =>
      have change : Peripheral IsFrame core core.startLabeledRequest.1 := by
        unfold Core.startLabeledRequest
        split
        · exact .refl core
        · exact core.beginLabeledRequest_peripheral
      exact peripheral change
  | cancelRequestLabel label => exact peripheral (core.dropRequestLabel_peripheral label)
  | setOwnMetadata key value => exact peripheral (core.setOwnMetadata_peripheral key value)
  | queueReadMarkerSet target time =>
      exact peripheral (core.queueReadMarkerSet_peripheral target time)
  | notifyReachable =>
      rw [Core.beginReconnectAttempt_eq, if_pos (by rw [rested.idle]; decide)]
      exact ⟨rested, rfl⟩
  | setIgnoreFilter filter => exact ⟨rested.of_same rfl rfl rfl rfl, rfl⟩
  | setHistoryResume resume => exact ⟨rested.of_same rfl rfl rfl rfl, rfl⟩
  | connected connecting => exact alive connecting rfl
  | encrypted connected => exact alive connected rfl
  | closed isOpen =>
      revert isOpen
      cases found : core.transport.state with
      | connected => exact fun _ => alive found rfl
      | encrypted => exact fun _ => alive found rfl
      | _ => exact nofun
  | transportFailed error inFlight => exact absurd (unconnected.symm.trans inFlight) (by decide)
  | silentRead bytes delivers =>
      simp only [Transport.delivers, Bool.or_eq_true, Bool.and_eq_true, decide_eq_true_eq]
        at delivers
      rcases delivers with ⟨connected, -⟩ | encrypted
      · exact alive connected rfl
      · exact alive encrypted rfl
  | timerFired slot id =>
      exact ⟨rested.timerFired slot id, (core.timerFired_move slot id).transport⟩
  | metadataRetry target =>
      exact peripheral ((Core.sendCommand_peripheral _ _ _).after rfl rfl rfl)

end Rested

namespace System

/-- Where a stopped session stands: at rest, with at most a shutdown that finds nothing, on its
way down, or about to settle. -/
inductive StopStage (system : System) : Prop
  | rested (rested : Rested system.core) (running : system.running = [])
      (unconnected : system.core.transport.state.inFlight = false)
  | forced (rested : Rested system.core) (running : system.running = [.shutdown])
      (unconnected : system.core.transport.state.inFlight = false)
  | closing (ended : Ended system.core) (quiet : system.core.effects = [])
      (state : system.core.state = .closing) (running : system.running = [.shutdown, .settleStop])
  | settling (ended : Ended system.core) (quiet : system.core.effects = [])
      (state : system.core.state = .idle ∨ system.core.state = .closing)
      (running : system.running = [.settleStop])
      (unconnected : system.core.transport.state.inFlight = false)

/-- A system that was stopped and not started since. -/
structure Down (config : SessionConfig) (system : System) : Prop where
  linked : system.Linked config
  silent : system.reading = []
  stage : system.StopStage

variable {config : SessionConfig} {system next : System} {action : Action}

namespace Down

theorem not_busy (down : system.Down config) (running : system.running = []) :
    Rested system.core ∧ system.core.transport.state.inFlight = false := by
  cases down.stage with
  | rested rested _ unconnected => exact ⟨rested, unconnected⟩
  | forced _ busy => exact absurd (busy.symm.trans running) (List.cons_ne_nil _ _)
  | closing _ _ _ busy => exact absurd (busy.symm.trans running) (List.cons_ne_nil _ _)
  | settling _ _ _ busy => exact absurd (busy.symm.trans running) (List.cons_ne_nil _ _)

/-- A stop leaves the shutdown of what is in flight, and its settling. -/
theorem of_stop (linked : system.Linked config) (readings : Readings)
    (quiet : system.core.effects = []) (resting : system.running = [])
    (after : (dispatchEffects (system.core.withReadings readings).stop []).Linked config) :
    (dispatchEffects (system.core.withReadings readings).stop []).Down config := by
  have silent : system.pending = [] := by rw [pending_of_quiet quiet, resting]
  have ended := Ended.stop (system.core.withReadings readings)
  have ready : Ended { (system.core.withReadings readings).stop with effects := [] } :=
    ended.of_same rfl rfl
  refine ⟨after, rfl, ?_⟩
  cases rests : system.core.state.rests with
  | true =>
      obtain ⟨state, effects⟩ := (system.core.withReadings readings).stop_of_rests rests
      have kept : LinkKept False (system.core.withReadings readings)
          (system.core.withReadings readings).stop := Core.stop_kept _
      refine .rested { ready with idle := state, quiet := rfl } ?_ ?_
      · exact (List.append_nil _).trans (effects.trans quiet)
      · exact (congrArg (fun transport => transport.state.inFlight) kept.transport).trans
          ((linked.of_silent silent).1 rests)
  | false =>
      obtain ⟨state, effects⟩ := (system.core.withReadings readings).stop_of_running rests
      refine .closing ready rfl state ((List.append_nil _).trans (effects.trans ?_))
      exact congrArg (· ++ [Effect.shutdown, .settleStop]) quiet

/-- Performing a transport call of a stopped session. -/
theorem performEffect {effect : Effect} {left : List Effect} (down : system.Down config)
    (readings : Readings) (running : system.running = effect :: left)
    (after : (System.performEffect (system.core.withReadings readings) effect left).Linked config) :
    (System.performEffect (system.core.withReadings readings) effect left).Down config := by
  cases down.stage with
  | rested rested idle => exact absurd (running.symm.trans idle) (List.cons_ne_nil _ _)
  | forced rested waiting unconnected =>
      obtain ⟨rfl, rfl⟩ := List.cons.inj (running.symm.trans waiting)
      rw [performEffect_shutdown_of_idle (system.core.withReadings readings) unconnected]
        at after ⊢
      exact ⟨after, rfl, .rested (rested.of_same rfl rfl rfl rfl) rfl unconnected⟩
  | closing ended quiet state waiting =>
      obtain ⟨rfl, rfl⟩ := List.cons.inj (running.symm.trans waiting)
      cases inFlight : system.core.transport.state.inFlight with
      | false =>
          rw [performEffect_shutdown_of_idle (system.core.withReadings readings) inFlight]
            at after ⊢
          exact ⟨after, rfl, .settling (ended.of_same rfl rfl) quiet (.inr state) rfl inFlight⟩
      | true =>
          rw [performEffect_shutdown_of_inFlight (system.core.withReadings readings)
            down.linked.settled inFlight] at after ⊢
          have dropped : Ended ((system.core.withReadings readings).withTransport
              { system.core.transport with state := .disconnected }) := ended.of_same rfl rfl
          obtain ⟨settled, idle, effects, transport⟩ := dropped.onDisconnected (.inr state)
          refine ⟨after, rfl, .settling (settled.of_same rfl rfl) rfl (.inl idle) ?_ ?_⟩
          · exact congrArg (· ++ [Effect.settleStop]) (effects.trans quiet)
          · exact congrArg (fun transport => transport.state.inFlight) transport
  | settling ended quiet state waiting unconnected =>
      obtain ⟨rfl, rfl⟩ := List.cons.inj (running.symm.trans waiting)
      rw [performEffect_settleStop_of_idle (system.core.withReadings readings) unconnected]
        at after ⊢
      have same := (system.core.withReadings readings).setState_toControl .idle
      have relabeled : Ended (system.core.withReadings readings) := ended.of_same rfl rfl
      refine ⟨after, rfl, .rested { (relabeled.setState .idle).of_same rfl rfl with
        idle := (congrArg Control.state same :), quiet := rfl } ?_ ?_⟩
      · exact (List.append_nil _).trans ((Core.setState_effects _ _).trans quiet)
      · exact (congrArg (fun control => control.transport.state.inFlight) same :).trans unconnected

variable [Platform]

/-- Every step but a start keeps a stopped session down. -/
theorem step {readings : Readings} (down : system.Down config) (going : action ≠ .start)
    (stepped : system.step readings action = some next) : next.Down config := by
  have after := down.linked.step stepped
  have outcome := step_outcome down.linked.orderly stepped
  cases outcome with
  | enters quiet resting entry =>
      obtain ⟨rested, unconnected⟩ := down.not_busy resting.1
      have relabeled : Rested (system.core.withReadings readings) := rested.of_same rfl rfl rfl rfl
      obtain ⟨entered, transport⟩ := relabeled.entry unconnected entry going
      refine ⟨after, rfl, .rested (entered.of_same rfl rfl rfl entered.quiet.symm) ?_ ?_⟩
      · exact (List.append_nil _).trans entered.quiet
      · exact (congrArg (fun transport => transport.state.inFlight) transport).trans unconnected
  | shuts quiet resting =>
      obtain ⟨rested, unconnected⟩ := down.not_busy resting.1
      exact ⟨after, rfl, .forced (rested.of_same rfl rfl rfl rfl) rfl unconnected⟩
  | reads quiet resting delivers frames =>
      obtain ⟨-, unconnected⟩ := down.not_busy resting.1
      revert delivers unconnected
      cases found : system.core.transport.state <;> simp [found, Transport.delivers,
        Core.withReadings, ConnectionState.inFlight]
  | drops reading => exact absurd (reading.symm.trans down.silent) (List.cons_ne_nil _ _)
  | handles reading => exact absurd (reading.symm.trans down.silent) (List.cons_ne_nil _ _)
  | finishes reading => exact absurd (reading.symm.trans down.silent) (List.cons_ne_nil _ _)
  | performs quiet read running => exact down.performEffect readings running after

end Down

/-- What is left of a stopped session. -/
theorem Down.left (down : system.Down config) :
    system.pending ∈ [[], [.shutdown], [.settleStop], [.shutdown, .settleStop]] ∧
      (system.core.transport.state.inFlight = true →
        system.pending = [.shutdown, .settleStop]) ∧
      (system.core.state = .idle ∨
        system.core.state = .closing ∧ .settleStop ∈ system.pending) := by
  cases down.stage with
  | rested rested running unconnected =>
      rw [pending_of_quiet rested.quiet, running, unconnected]
      exact ⟨by simp, nofun, .inl rested.idle⟩
  | forced rested running unconnected =>
      rw [pending_of_quiet rested.quiet, running, unconnected]
      exact ⟨by simp, nofun, .inl rested.idle⟩
  | closing ended quiet state running =>
      rw [pending_of_quiet quiet, running]
      exact ⟨by simp, fun _ => rfl, .inr ⟨state, by simp⟩⟩
  | settling ended quiet state running unconnected =>
      rw [pending_of_quiet quiet, running, unconnected]
      exact ⟨by simp, nofun, state.imp id fun closing => ⟨closing, by simp⟩⟩

variable [Platform] {later : System}

/-- A stop lasts until the next start. Whatever its owner, its timers and the transport do, a
session that was stopped handles no line and has at most a shutdown and its settling to do, in that
order: it asks for no connection and writes nothing, what was in flight is shut down next, and it is
Idle, or Closing with the settling still to come. -/
theorem stopped_stays_down {readings : Readings} {labels : List (Readings × Action)}
    (reachable : Reachable config system)
    (ran : system.run ((readings, .stop) :: labels) = some later)
    (going : ∀ label ∈ labels, label.2 ≠ .start) :
    later.reading = [] ∧
      later.pending ∈ [[], [.shutdown], [.settleStop], [.shutdown, .settleStop]] ∧
      (later.core.transport.state.inFlight = true →
        later.pending = [.shutdown, .settleStop]) ∧
      (later.core.state = .idle ∨ later.core.state = .closing ∧ .settleStop ∈ later.pending) := by
  obtain ⟨next, stepped, tail⟩ := Option.bind_eq_some_iff.mp ran
  have linked := Linked.of_reachable reachable
  have stopped : next.Down config := by
    have after := linked.step stepped
    have outcome := step_outcome linked.orderly stepped
    cases outcome with
    | enters quiet resting entry =>
        cases entry with
        | stop => exact .of_stop linked readings quiet resting.1 after
  have down : later.Down config := by
    clear ran stepped
    induction labels generalizing next with
    | nil =>
        cases tail
        exact stopped
    | cons label rest inductionHypothesis =>
        obtain ⟨second, moved, tail⟩ := Option.bind_eq_some_iff.mp tail
        exact inductionHypothesis (fun label listed => going label (List.mem_cons_of_mem _ listed))
          second tail (stopped.step (going label List.mem_cons_self) moved)
  exact ⟨down.silent, down.left⟩

end System

section Reference

local instance stopPlatform : Platform := reference

namespace System

/-- A registered session is stopped, told that the network is back, and settles. -/
theorem stopped_stays_down_registered :
    ∃ system later : System, system.core.state = .registered ∧
      system.run (({}, .stop) :: underOneClock [.perform, .perform, .notifyReachable]) =
        some later ∧
      (later.core.state = .idle ∨
        later.core.state = .closing ∧ .settleStop ∈ later.pending) := by
  have ends : ((initial plaintextProfile).run (underOneClock (connectActions ++
      readActions [":s CAP * LS :", ":s 001 nick :hi"] ++ performActions 3))).any (fun system =>
        system.core.state = .registered && (system.run (({}, .stop) ::
          underOneClock [.perform, .perform, .notifyReachable])).isSome) = true := by
    decide +kernel
  obtain ⟨system, taken, holds⟩ := exists_of_any ends
  simp only [Bool.and_eq_true, decide_eq_true_eq] at holds
  obtain ⟨later, ran⟩ := Option.isSome_iff_exists.mp holds.2
  have going : ∀ label ∈ underOneClock [.perform, .perform, .notifyReachable],
      label.2 ≠ .start := by
    simp [underOneClock]
  obtain ⟨-, -, -, settled⟩ := stopped_stays_down (.of_runAll taken) ran going
  exact ⟨system, later, holds.1, ran, settled⟩

end System

end Reference

end Omairc.Session
