import Omairc.Session.LifecycleControl
import Omairc.Session.System

/-!
# What one step of the system does

`Entry` lists the session's entry points and `StepOutcome` the shapes of a step. While
nothing is under way no effect is left unqueued, and while the lines of a read are
handled the transport delivers and nothing is being performed.
-/

namespace Omairc.Session

open Omairc.Text Omairc.Irc

variable [Platform]

/-- The entry points: what an action makes of the session. -/
inductive Entry (core : Core) : Action → Core → Prop
  | start : Entry core .start core.start
  | stop : Entry core .stop core.stop
  | quit (reason : String) : Entry core (.quit reason) (core.quit reason).1
  | send (operation : SendOperation) : Entry core (.send operation) (core.send operation).1
  | startLabeledRequest : Entry core .startLabeledRequest core.startLabeledRequest.1
  | cancelRequestLabel (label : String) :
      Entry core (.cancelRequestLabel label) (core.dropRequestLabel label)
  | setOwnMetadata (key value : String) :
      Entry core (.setOwnMetadata key value) (core.setOwnMetadata key value).1
  | queueReadMarkerSet (target : String) (time : Instant) :
      Entry core (.queueReadMarkerSet target time) (core.queueReadMarkerSet target time)
  | notifyReachable : Entry core .notifyReachable core.beginReconnectAttempt
  | setIgnoreFilter (filter : Option (IrcMessage → String → String → Bool)) :
      Entry core (.setIgnoreFilter filter) { core with ignoreFilter := filter }
  | setHistoryResume (resume : Option (String → IrcCaseMapping → Option Instant)) :
      Entry core (.setHistoryResume resume) { core with historyResume := resume }
  | connected (connecting : core.transport.state = .connecting) :
      Entry core .connected
        (core.withTransport { core.transport with state := .connected }).onConnected
  | encrypted (connected : core.transport.state = .connected) (tls : core.transport.tlsOn = true) :
      Entry core .encrypted
        (core.withTransport { core.transport with state := .encrypted }).onEncrypted
  | closed (isOpen : core.transport.state.isOpen = true) :
      Entry core .closed
        (core.withTransport { core.transport with state := .disconnected }).onDisconnected
  | transportFailed (error : TransportError) (inFlight : core.transport.state.inFlight = true) :
      Entry core (.transportFailed error)
        ((core.withTransport { core.transport with state := .failed }).errorOccurred error)
  | silentRead (bytes : Bytes) (delivers : core.transport.delivers = true)
      (framesless : (core.beginRead bytes).2 = []) :
      Entry core (.bytesReceived bytes) (core.beginRead bytes).1
  | timerFired (slot : TimerSlot) (id : Nat) :
      Entry core (.timerFired slot id) (core.timerFired slot id)
  | metadataRetry (target : String) :
      Entry core (.metadataRetry target)
        ({ core with
          metadataRetries := core.metadataRetries.eraseP fun retry => retry.target = target
          }.retryMetadataSync target)

namespace System

/-- Nothing is left unqueued outside a read, and a read is handled on a transport that
delivers while nothing is performed. -/
structure Orderly (system : System) : Prop where
  queued : system.reading = [] → system.core.effects = []
  reading : system.reading ≠ [] → system.running = [] ∧ system.core.transport.delivers = true

/-- The transport calls that wait, in the order they will be performed. -/
def pending (system : System) : List Effect := system.core.effects ++ system.running

/-- The shapes of a step of an orderly system. `core` is the session under the readings
of the step. -/
inductive StepOutcome (system : System) (core : Core) : Action → System → Prop
  | enters {action : Action} {entered : Core} (quiet : core.effects = [])
      (resting : system.running = [] ∧ system.reading = []) (entry : Entry core action entered) :
      StepOutcome system core action (dispatchEffects entered [])
  | shuts (quiet : core.effects = []) (resting : system.running = [] ∧ system.reading = []) :
      StepOutcome system core .forceTransportShutdown
        { core, running := [.shutdown], reading := [] }
  | reads {bytes : Bytes} (quiet : core.effects = [])
      (resting : system.running = [] ∧ system.reading = [])
      (delivers : core.transport.delivers = true) (frames : (core.beginRead bytes).2 ≠ []) :
      StepOutcome system core (.bytesReceived bytes)
        { core := (core.beginRead bytes).1, running := [], reading := (core.beginRead bytes).2 }
  | drops {frame : Bytes} {rest : List Bytes} (reading : system.reading = frame :: rest)
      (resting : system.running = []) (delivers : core.transport.delivers = true)
      (upgrading : core.state = .stsUpgrading) :
      StepOutcome system core .handleLine (dispatchEffects core [])
  | handles {frame : Bytes} {rest : List Bytes} (reading : system.reading = frame :: rest)
      (resting : system.running = []) (delivers : core.transport.delivers = true)
      (settled : core.state ≠ .stsUpgrading) (more : rest ≠ []) :
      StepOutcome system core .handleLine
        { core := core.handleFrame frame, running := [], reading := rest }
  | finishes {frame : Bytes} (reading : system.reading = [frame])
      (resting : system.running = []) (delivers : core.transport.delivers = true)
      (settled : core.state ≠ .stsUpgrading) :
      StepOutcome system core .handleLine (dispatchEffects (core.handleFrame frame) [])
  | performs {effect : Effect} {left : List Effect} (quiet : core.effects = [])
      (read : system.reading = []) (running : system.running = effect :: left) :
      StepOutcome system core .perform (performEffect core effect left)

variable {system next : System} {readings : Readings} {action : Action}

omit [Platform] in
/-- Handing over the effects of a session that queued none changes nothing. -/
theorem dispatchEffects_of_quiet {core : Core} (quiet : core.effects = []) (left : List Effect) :
    dispatchEffects core left = { core, running := left } := by
  have same : { core with effects := [] } = core := by rw [← quiet]
  rw [dispatchEffects, same, quiet, List.nil_append]

/-- Every answer of the session to its surroundings is an entry, a shutdown or a read. -/
theorem respond_outcome {core : Core} (quiet : core.effects = [])
    (resting : system.running = [] ∧ system.reading = [])
    (responded : ({ system with core } : System).respond action = some next) :
    StepOutcome system core action next := by
  have rested := resting
  obtain ⟨running, reading⟩ := rested
  have enter {entered : Core} (entry : Entry core action entered)
      (same : dispatchEffects entered [] = next) : StepOutcome system core action next := by
    rw [← same]
    exact .enters quiet resting entry
  have unqueued {entered : Core} (entry : Entry core action entered)
      (silent : entered.effects = [])
      (same : { core := entered, running := [], reading := [] } = next) :
      StepOutcome system core action next := by
    rw [← same, ← dispatchEffects_of_quiet silent]
    exact .enters quiet resting entry
  cases action with
  | start => exact enter .start (by simpa [respond, System.enter, running] using responded)
  | stop => exact enter .stop (by simpa [respond, System.enter, running] using responded)
  | quit reason =>
      exact enter (.quit reason) (by simpa [respond, System.enter, running] using responded)
  | send operation =>
      exact enter (.send operation) (by simpa [respond, System.enter, running] using responded)
  | startLabeledRequest =>
      exact enter .startLabeledRequest
        (by simpa [respond, System.enter, running] using responded)
  | cancelRequestLabel label =>
      exact enter (.cancelRequestLabel label)
        (by simpa [respond, System.enter, running] using responded)
  | setOwnMetadata key value =>
      exact enter (.setOwnMetadata key value)
        (by simpa [respond, System.enter, running] using responded)
  | queueReadMarkerSet target time =>
      exact enter (.queueReadMarkerSet target time)
        (by simpa [respond, System.enter, running] using responded)
  | notifyReachable =>
      exact enter .notifyReachable (by simpa [respond, System.enter, running] using responded)
  | forceTransportShutdown =>
      simp only [respond, reading, Option.some.injEq] at responded
      rw [← responded]
      exact .shuts quiet resting
  | setIgnoreFilter filter =>
      exact unqueued (.setIgnoreFilter filter) quiet
        (by simpa [respond, running, reading] using responded)
  | setHistoryResume resume =>
      exact unqueued (.setHistoryResume resume) quiet
        (by simpa [respond, running, reading] using responded)
  | connected =>
      simp only [respond] at responded
      split at responded
      · rename_i connecting
        exact enter (.connected connecting) (by simpa [System.enter, running] using responded)
      · cases responded
  | encrypted =>
      simp only [respond] at responded
      split at responded
      · rename_i connected
        exact enter (.encrypted connected.1 connected.2)
          (by simpa [System.enter, running] using responded)
      · cases responded
  | closed =>
      simp only [respond] at responded
      split at responded
      · rename_i isOpen
        exact enter (.closed isOpen) (by simpa [System.enter, running] using responded)
      · cases responded
  | transportFailed error =>
      simp only [respond] at responded
      split at responded
      · rename_i inFlight
        exact enter (.transportFailed error inFlight)
          (by simpa [System.enter, running] using responded)
      · cases responded
  | bytesReceived bytes =>
      simp only [respond] at responded
      split at responded
      · rename_i delivers
        split at responded
        · rename_i framesless
          exact enter (.silentRead bytes delivers (by simpa using framesless))
            (by simpa [running] using responded)
        · rename_i frames
          simp only [running, Option.some.injEq] at responded
          rw [← responded]
          exact .reads quiet resting delivers (by simpa using frames)
      · cases responded
  | timerFired slot id =>
      exact enter (.timerFired slot id) (by simpa [respond, System.enter, running] using responded)
  | metadataRetry target =>
      simp only [respond] at responded
      split at responded
      · exact enter (.metadataRetry target) (by simpa [System.enter, running] using responded)
      · cases responded
  | handleLine => cases responded
  | perform => cases responded

/-- Every step of an orderly system has one of the listed shapes. -/
theorem step_outcome (orderly : system.Orderly)
    (stepped : system.step readings action = some next) :
    StepOutcome system (system.core.withReadings readings) action next := by
  simp only [step] at stepped
  split at stepped
  · rename_i idle
    simp only [System.idle, Bool.and_eq_true, List.isEmpty_iff] at idle
    exact respond_outcome (orderly.queued idle.2) idle stepped
  · rename_i busy
    simp only [work] at stepped
    split at stepped
    · rename_i frame rest reading
      have reads : system.reading ≠ [] := by simp [reading]
      obtain ⟨resting, delivers⟩ := orderly.reading reads
      split at stepped
      · rename_i upgrading
        simp only [resting, Option.some.injEq] at stepped
        rw [← stepped]
        exact .drops reading resting delivers upgrading
      · rename_i settled
        split at stepped
        · rename_i last
          simp only [List.isEmpty_iff] at last
          subst last
          simp only [resting, Option.some.injEq] at stepped
          rw [← stepped]
          exact .finishes reading resting delivers settled
        · rename_i more
          simp only [resting, Option.some.injEq] at stepped
          rw [← stepped]
          exact .handles reading resting delivers settled (by simpa using more)
    · rename_i effect left read running
      simp only [Option.some.injEq] at stepped
      rw [← stepped]
      exact .performs (orderly.queued read) read running
    · cases stepped

/-- Reporting the faults of a read changes the events alone. -/
theorem foldl_emitProtocolError (faults : List IrcFrameFault) (core : Core) :
    let reported := faults.foldl (fun core fault =>
      core.emitProtocolError "frame" fault.error fault.preview fault.byteCount) core
    reported.toControl = core.toControl ∧ reported.timers = core.timers ∧
      reported.effects = core.effects := by
  induction faults generalizing core with
  | nil => exact ⟨rfl, rfl, rfl⟩
  | cons fault rest inductionHypothesis => exact inductionHypothesis (core.emit _)

/-- Taking the bytes of a read restarts the silence window and feeds the framer. -/
structure ReadBegun (core read : Core) : Prop where
  control : ∃ framer ping, read.toControl = { core.toControl with framer, ping }
  timers : ∀ slot, slot ≠ .ping → read.timers slot = core.timers slot
  effects : read.effects = core.effects

theorem beginRead_begun (core : Core) (bytes : Bytes) :
    ReadBegun core (core.beginRead bytes).1 := by
  have watched : ReadBegun core
      (if core.ping = .watching then core.armPingWatchdog else core) := by
    split
    · refine ⟨?_, fun slot other => core.armPingWatchdog_timers other, by simp⟩
      rcases core.armPingWatchdog_toControl with kept | ⟨-, armed⟩
      · exact ⟨core.framer, core.ping, kept⟩
      · exact ⟨core.framer, .watching, armed⟩
    · exact ⟨⟨core.framer, core.ping, rfl⟩, fun _ _ => rfl, rfl⟩
  unfold Core.beginRead
  simp only
  revert watched
  generalize (if core.ping = .watching then core.armPingWatchdog else core) = restarted
  rintro ⟨⟨framer, ping, control⟩, timers, effects⟩
  generalize restarted.framer.feed bytes = fed
  obtain ⟨reported, reportedTimers, reportedEffects⟩ :=
    foldl_emitProtocolError fed.2.faults { restarted with framer := fed.1 }
  refine ⟨⟨fed.1, ping, ?_⟩, fun slot other => ?_, ?_⟩
  · rw [reported, control]
  · rw [reportedTimers]
    exact timers slot other
  · rw [reportedEffects]
    exact effects

omit [Platform] in
/-- Performing an effect leaves the system orderly. -/
theorem performEffect_orderly {core : Core} (quiet : core.effects = []) (effect : Effect)
    (left : List Effect) : (performEffect core effect left).Orderly := by
  cases effect with
  | write frame => exact ⟨fun _ => quiet, fun reads => absurd rfl reads⟩
  | connect host port tls =>
      unfold performEffect
      simp only
      split
      all_goals exact ⟨fun _ => quiet, fun reads => absurd rfl reads⟩
  | shutdown =>
      unfold performEffect
      simp only
      split
      · exact ⟨fun _ => rfl, fun reads => absurd rfl reads⟩
      · exact ⟨fun _ => quiet, fun reads => absurd rfl reads⟩
  | settleStop =>
      unfold performEffect
      simp only
      split
      · exact ⟨fun _ => rfl, fun reads => absurd rfl reads⟩
      · exact ⟨fun _ => quiet, fun reads => absurd rfl reads⟩

/-- Every step keeps the system orderly. -/
theorem Orderly.step (orderly : system.Orderly)
    (stepped : system.step readings action = some next) : next.Orderly := by
  have outcome := step_outcome orderly stepped
  cases outcome with
  | enters quiet resting entry => exact ⟨fun _ => rfl, fun reads => absurd rfl reads⟩
  | shuts quiet resting => exact ⟨fun _ => quiet, fun reads => absurd rfl reads⟩
  | reads quiet resting delivers frames =>
      refine ⟨fun silent => absurd silent frames, fun _ => ⟨rfl, ?_⟩⟩
      obtain ⟨framer, ping, control⟩ := (beginRead_begun (system.core.withReadings readings) _).control
      rw [congrArg Control.transport control]
      exact delivers
  | drops reading resting delivers upgrading => exact ⟨fun _ => rfl, fun reads => absurd rfl reads⟩
  | handles reading resting delivers settled more =>
      refine ⟨fun silent => absurd silent more, fun _ => ⟨rfl, ?_⟩⟩
      rw [(Core.handleFrame_change _ _ settled).surroundings.2.2]
      exact delivers
  | finishes reading resting delivers settled =>
      exact ⟨fun _ => rfl, fun reads => absurd rfl reads⟩
  | performs quiet read running => exact performEffect_orderly quiet _ _

/-- Every reachable system is orderly. -/
theorem Reachable.orderly {config : SessionConfig} (reachable : Reachable config system) :
    system.Orderly :=
  reachable.invariant Orderly ⟨fun _ => rfl, fun reads => absurd rfl reads⟩
    fun orderly _ stepped => orderly.step stepped

end System

end Omairc.Session
