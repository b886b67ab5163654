import Omairc.Session.NegotiationStages
import Omairc.Session.Reference
import Omairc.Session.Steps

/-!
# A registered session stays registered

A disconnect, a stop, a ping timeout, an ERROR line and an STS upgrade end a
registration. `Ejects` lists the lines that also end it: an authentication numeric,
and CAP lines that restart the handshake.
-/

namespace Omairc.Session

open Omairc.Text Omairc.Irc

namespace Core

variable (core : Core)

/-- A subcommand of CAP takes a registered session out of its state, when the line
begins no upgrade. -/
def EjectsByCap (message : IrcMessage) : CapSubcommand × Nat → Prop
  | (.ls, index) => isContinued message index = false ∧ core.registrationSent = false
  | (.new, _) | (.del, _) => core.registrationSent = false
  | (.ack, index) =>
      .sasl ∈ (core.caps.acknowledge (capabilityTokens message index)).2 ∧
        core.sasl.exchangeStarted = false
  | (.nak, index) =>
      .sasl ∈ (core.caps.reject (capabilityTokens message index)).2 ∨ core.registrationSent = false

/-- A line takes a registered session out of its state, though it is no ERROR and begins
no upgrade. -/
def Ejects (frame : Bytes) : Prop :=
  ∃ message, core.Takes frame message ∧
    ((authenticationRefusal message.command).isSome = true ∨
      message.command = "CAP" ∧ core.upgradePort message = none ∧
        ∃ found, core.capRoute message = some found ∧ core.EjectsByCap message found)

/-- A line is an ERROR, or begins the STS upgrade of a plaintext session. -/
def EndsByLine (frame : Bytes) : Prop :=
  ∃ message, core.Takes frame message ∧
    (message.command = "ERROR" ∨
      message.command = "CAP" ∧ (core.upgradePort message).isSome = true)

/-! ## One line -/

variable [Platform]

/-- A CAP line that begins no upgrade keeps a registered session registered, unless it
ejects it. -/
theorem handleCapSubcommand_registered_iff {message : IrcMessage} {found : CapSubcommand × Nat}
    (registered : core.state = .registered) (routed : core.capRoute message = some found)
    (silent : core.upgradePort message = none) :
    (core.handleCapSubcommand message found).state = .registered ↔
      ¬ core.EjectsByCap message found := by
  obtain ⟨subcommand, index⟩ := found
  obtain ⟨staged, stage, finished⟩ :=
    core.handleCapSubcommand_staged (by simp [registered]) routed silent
  rw [finished]
  have state : staged.state = .registered := stage.state.trans registered
  have sent := stage.registrationSent
  have round : staged.requestCapabilities.state = .registered ↔ core.registrationSent ≠ false := by
    cases once : core.registrationSent with
    | true =>
        rw [staged.requestCapabilities_state_of_sent (sent.trans once), state]
        simp
    | false =>
        rcases staged.requestCapabilities_state_of_unsent (sent.trans once) with moved | moved
        all_goals simp [moved]
  cases subcommand with
  | ls =>
      rw [finishCapSubcommand, EjectsByCap]
      cases isContinued message index with
      | true => simp [state]
      | false => simp [round]
  | new =>
      rw [finishCapSubcommand, EjectsByCap]
      exact round
  | del =>
      rw [finishCapSubcommand, EjectsByCap]
      exact round
  | ack =>
      rw [finishCapSubcommand, EjectsByCap]
      by_cases begins : .sasl ∈ (core.caps.acknowledge (capabilityTokens message index)).2 ∧
          core.sasl.exchangeStarted = false
      · rw [if_pos begins]
        have moved : staged.beginSaslExchange.state = .sasl := by
          unfold beginSaslExchange
          simp only
          split
          all_goals simp
        simp [moved, begins]
      · rw [if_neg begins, if_pos registered, endCapabilityNegotiation_state]
        have kept : staged.subscribeToMemberMetadata.state = staged.state :=
          (staged.subscribeToMemberMetadata_peripheral state).state
        simp [kept, state, begins]
  | nak =>
      rw [finishCapSubcommand, EjectsByCap]
      by_cases refused : .sasl ∈ (core.caps.reject (capabilityTokens message index)).2
      · rw [if_pos refused]
        simp [refused]
      · rw [if_neg refused, round]
        simp [refused]

/-- A CAP line keeps a registered session registered, unless it upgrades or ejects it. -/
theorem handleCap_registered_iff {message : IrcMessage} (registered : core.state = .registered)
    (silent : core.upgradePort message = none) :
    (core.handleCap message).state = .registered ↔
      ¬ ∃ found, core.capRoute message = some found ∧ core.EjectsByCap message found := by
  rw [handleCap_eq]
  cases routed : core.capRoute message with
  | none => simp [registered]
  | some found =>
      simpa using core.handleCapSubcommand_registered_iff registered routed silent

/-- An authentication numeric fails the session, whatever it was about. -/
theorem handleFrame_state_of_refusal {frame : Bytes} {message : IrcMessage} {text : String}
    (taken : core.Takes frame message)
    (refusal : authenticationRefusal message.command = some text) :
    (core.handleFrame frame).state = .failed := by
  have control : isControlCommand message.command = true := by
    unfold authenticationRefusal at refusal
    split at refusal
    · rename_i failed
      rcases failed with failed | failed
      all_goals rw [failed]; decide
    · split at refusal
      · rename_i rejected
        rw [rejected]
        decide
      · cases refusal
  rw [core.handleFrame_of_control taken control, handleCommand]
  unfold authenticationRefusal at refusal
  split at refusal
  · rename_i failed
    have other (command : String) (apart : command ≠ "904" ∧ command ≠ "905") :
        message.command ≠ command := by
      rintro rfl
      exact failed.elim apart.1 apart.2
    rw [if_neg (other "CAP" (by decide)), if_neg (other "AUTHENTICATE" (by decide)),
      if_neg (other "001" (by decide)), if_neg (other "903" (by decide)),
      if_neg (other "774" (by decide)), if_pos failed]
    simp
  · split at refusal
    · rename_i other rejected
      simp [rejected]
    · cases refusal

/-- A CAP line runs the handler of CAP. -/
theorem handleFrame_of_cap {frame : Bytes} {message : IrcMessage} (taken : core.Takes frame message)
    (command : message.command = "CAP") :
    core.handleFrame frame = (core.reportInbound message).handleCap message := by
  rw [core.handleFrame_of_control taken (by rw [command]; decide), handleCommand]
  simp only [command, if_true]

/-- One line keeps a registered session registered, is an ERROR, or begins an upgrade,
exactly when it does not eject the session. -/
theorem handleFrame_registered_iff (frame : Bytes) (registered : core.state = .registered) :
    (core.handleFrame frame).state = .registered ∨ core.EndsByLine frame ↔
      ¬ core.Ejects frame := by
  constructor
  · rintro kept ⟨message, taken, ejected⟩
    rcases kept with kept | ⟨other, otherTaken, ends⟩
    · rcases ejected with refusal | ⟨command, silent, ejects⟩
      · obtain ⟨text, refusal⟩ := Option.isSome_iff_exists.mp refusal
        rw [core.handleFrame_state_of_refusal taken refusal] at kept
        cases kept
      · rw [core.handleFrame_of_cap taken command] at kept
        exact ((core.reportInbound message).handleCap_registered_iff registered silent).mp kept ejects
    · obtain rfl : other = message := by
        have same := otherTaken.1.symm.trans taken.1
        injection same
      rcases ejected with refusal | ⟨command, silent, -⟩
      · rcases ends with error | ⟨command, -⟩
        · simp [error, authenticationRefusal] at refusal
        · simp [command, authenticationRefusal] at refusal
      · rcases ends with error | ⟨-, upgrades⟩
        · exact absurd (error.symm.trans command) (by decide)
        · simp [silent] at upgrades
  · intro stays
    have outcome := core.handleFrame_outcome frame
    revert outcome
    generalize core.handleFrame frame = changed
    intro outcome
    cases outcome with
    | peripheral change => exact .inl (change.state.trans registered)
    | @ping message taken command =>
        refine .inl ?_
        unfold answerPing
        split
        · exact registered
        · exact (congrArg Control.state (sendLine_toControl _ _)).trans registered
    | @pong message taken command =>
        refine .inl ?_
        rcases (core.reportInbound message).armPingWatchdog_toControl with kept | ⟨-, armed⟩
        · exact (congrArg Control.state kept).trans registered
        · exact ((congrArg Control.state armed).trans rfl).trans registered
    | @cap message taken command =>
        cases upgrade : core.upgradePort message with
        | some port => exact .inr ⟨message, taken, .inr ⟨command, by simp [upgrade]⟩⟩
        | none =>
            refine .inl (((core.reportInbound message).handleCap_registered_iff registered
              upgrade).mpr fun ejects => ?_)
            exact stays ⟨message, taken, .inr ⟨command, upgrade, ejects⟩⟩
    | authenticate taken command =>
        rw [handleAuthenticate, if_pos (by simp [reportInbound, registered])]
        exact .inl registered
    | welcome taken command =>
        rw [handleWelcome, if_pos (.inl registered)]
        exact .inl registered
    | saslSuccess taken command =>
        rw [handleSaslSuccess, if_pos (by simp [reportInbound, registered])]
        exact .inl registered
    | rejected taken refusal =>
        exact absurd ⟨_, taken, .inl (by simp [refusal])⟩ stays
    | withoutCap taken command listing => simp [listing] at registered
    | refused taken command unregistered => exact absurd registered unregistered
    | error taken command => exact .inr ⟨_, taken, .inl command⟩

end Core

/-! ## One step -/

/-- A disconnect, a stop, or a timeout of the ping watchdog. -/
def Core.EndsConnection (core : Core) : Action → Prop
  | .stop | .quit _ | .closed | .transportFailed _ => True
  | .timerFired slot _ => slot = .ping ∧ core.ping.expire.2 = .timeout
  | _ => False

namespace System

variable [Platform] (system : System) (label : Readings × Action)

/-- A step disconnects, stops, times the ping watchdog out, or handles a line that ends
the registration. -/
def EndsRegistration : Prop :=
  system.core.EndsConnection label.2 ∨
    (label.2 = .perform ∧
      (system.running.head? = some .shutdown ∨ system.running.head? = some .settleStop)) ∨
    (label.2 = .handleLine ∧ ∃ frame, system.reading.head? = some frame ∧
      (system.core.withReadings label.1).EndsByLine frame)

/-- A step handles a line that ejects the session. -/
def EjectsRegistration : Prop :=
  label.2 = .handleLine ∧ ∃ frame, system.reading.head? = some frame ∧
    (system.core.withReadings label.1).Ejects frame

end System

namespace Core

variable [Platform] {core entered : Core} {action : Action}

omit [Platform] in
/-- The capability deadline keeps the state. -/
theorem onCapabilityTimeout_state : core.onCapabilityTimeout.state = core.state := by
  unfold onCapabilityTimeout
  generalize core.caps.abandonOutstanding = round
  simp only [endCapabilityNegotiation_state]
  exact (congrArg Control.state (publishCapabilities_toControl _)).trans rfl

omit [Platform] in
/-- A watchdog that does not time out keeps a registered session registered. -/
theorem onPingWatchdogFired_registered (registered : core.state = .registered)
    (answered : core.ping.expire.2 ≠ .timeout) :
    core.onPingWatchdogFired.state = .registered := by
  rw [onPingWatchdogFired, if_neg (by simp [registered])]
  generalize core.ping.expire = expired at answered ⊢
  obtain ⟨ping, expiry⟩ := expired
  cases expiry with
  | probe => exact (congrArg Control.state (sendLine_toControl _ _)).trans registered
  | timeout => exact absurd rfl answered
  | nothing => exact registered

omit [Platform] in
/-- No timer but a timeout of the watchdog moves a registered session. -/
theorem timerFired_registered {slot : TimerSlot} (id : Nat) (registered : core.state = .registered)
    (answered : slot = .ping → core.ping.expire.2 ≠ .timeout) :
    (core.timerFired slot id).state = .registered := by
  have disarmed : (core.cancelTimer slot).state = .registered := registered
  unfold timerFired
  split
  · exact registered
  · simp only
    cases slot with
    | reconnect =>
        rw [beginReconnectAttempt_eq, if_pos (by simp [registered])]
        exact disarmed
    | capability => exact onCapabilityTimeout_state.trans disarmed
    | registration =>
        rw [onRegistrationTimeout, if_pos (.inl disarmed)]
        exact disarmed
    | ping => exact onPingWatchdogFired_registered disarmed (answered rfl)
    | label => exact (onLabelTimerFired_peripheral _).state.trans disarmed

/-- An entry point keeps a registered session registered, unless it may end it. -/
theorem entry_registered (entry : Entry core action entered) (registered : core.state = .registered)
    (stays : ¬ core.EndsConnection action) : entered.state = .registered := by
  cases entry with
  | start =>
      rw [start_eq, if_pos (by simp [registered])]
      exact registered
  | stop => exact absurd trivial stays
  | quit reason => exact absurd trivial stays
  | send operation => exact (core.send_peripheral operation).state.trans registered
  | startLabeledRequest =>
      unfold startLabeledRequest
      split
      · exact registered
      · exact core.beginLabeledRequest_peripheral.state.trans registered
  | cancelRequestLabel label => exact (core.dropRequestLabel_peripheral label).state.trans registered
  | setOwnMetadata key value => exact (core.setOwnMetadata_peripheral key value).state.trans registered
  | queueReadMarkerSet target time =>
      exact (core.queueReadMarkerSet_peripheral target time).state.trans registered
  | notifyReachable =>
      rw [beginReconnectAttempt_eq, if_pos (by simp [registered])]
      exact registered
  | setIgnoreFilter filter => exact registered
  | setHistoryResume resume => exact registered
  | connected connecting =>
      have idle : (core.withTransport { core.transport with state := .connected }).awaitingSocket =
          false := by simp [awaitingSocket, withTransport, registered]
      rw [onConnected, if_neg (by simp [idle])]
      exact registered
  | encrypted connected tls =>
      have idle : (core.withTransport { core.transport with state := .encrypted }).awaitingSocket =
          false := by simp [awaitingSocket, withTransport, registered]
      rw [onEncrypted, if_neg (by simp [idle])]
      exact registered
  | closed isOpen => exact absurd trivial stays
  | transportFailed error inFlight => exact absurd trivial stays
  | silentRead bytes delivers framesless =>
      obtain ⟨framer, ping, control⟩ := (System.beginRead_begun core bytes).control
      exact ((congrArg Control.state control).trans rfl).trans registered
  | timerFired slot id => exact timerFired_registered id registered fun ping timeout => stays ⟨ping, timeout⟩
  | metadataRetry target =>
      exact (sendCommand_peripheral _ _ _).state.trans registered

end Core

namespace System

variable [Platform] {config : SessionConfig} {system next final : System}
  {label : Readings × Action}

/-- A step keeps a registered session registered or is one that may end it, exactly when
it does not eject the session. -/
theorem registered_step_iff (orderly : system.Orderly) (registered : system.core.state = .registered)
    (stepped : transition system label = some next) :
    next.core.state = .registered ∨ system.EndsRegistration label ↔
      ¬ system.EjectsRegistration label := by
  obtain ⟨readings, action⟩ := label
  have read : (system.core.withReadings readings).state = .registered := registered
  have outcome := step_outcome orderly stepped
  have unlined (other : action ≠ .handleLine) :
      ¬ system.EjectsRegistration (readings, action) := fun ejects => other ejects.1
  cases outcome with
  | @enters action entered quiet resting entry =>
      refine iff_of_true ?_ (unlined (by rintro rfl; cases entry))
      by_cases ends : system.core.EndsConnection action
      · exact .inr (.inl ends)
      · have kept : entered.state = .registered := Core.entry_registered entry read ends
        exact .inl kept
  | shuts quiet resting => exact iff_of_true (.inl read) (unlined (by simp))
  | reads quiet resting delivers frames =>
      obtain ⟨framer, ping, control⟩ := (beginRead_begun (system.core.withReadings readings) _).control
      exact iff_of_true (.inl (((congrArg Control.state control).trans rfl).trans read))
        (unlined (by simp))
  | drops reading resting delivers upgrading => exact absurd (read.symm.trans upgrading) (by decide)
  | @handles frame rest reading resting delivers settled more =>
      have line := (system.core.withReadings readings).handleFrame_registered_iff frame read
      simpa [EndsRegistration, EjectsRegistration, Core.EndsConnection, reading] using line
  | @finishes frame reading resting delivers settled =>
      have line := (system.core.withReadings readings).handleFrame_registered_iff frame read
      simpa [EndsRegistration, EjectsRegistration, Core.EndsConnection, reading,
        dispatchEffects] using line
  | @performs effect left quiet idle running =>
      refine iff_of_true ?_ (unlined (by simp))
      cases effect with
      | write frame => exact .inl read
      | connect host port tls =>
          refine .inl ?_
          unfold performEffect
          simp only
          split
          all_goals exact read
      | shutdown => exact .inr (.inr (.inl ⟨rfl, .inl (by rw [running]; rfl)⟩))
      | settleStop => exact .inr (.inr (.inl ⟨rfl, .inr (by rw [running]; rfl)⟩))

/-- A step that neither may end the registration nor ejects the session. -/
def KeepsRegistration (system : System) (label : Readings × Action) : Prop :=
  ¬ system.EndsRegistration label ∧ ¬ system.EjectsRegistration label

/-- A registered session leaves Registered, but for a disconnect, a stop, a timeout of the
ping watchdog, an ERROR line and an upgrade, exactly by a line that ejects it; without
such a line it stays registered over whole runs. -/
theorem registered_stable (reachable : Reachable config system)
    (registered : system.core.state = .registered) :
    (∀ label next, transition system label = some next →
      (next.core.state = .registered ∨ system.EndsRegistration label ↔
        ¬ system.EjectsRegistration label)) ∧
      ∀ final, Semantics.Runs transition KeepsRegistration system final →
        final.core.state = .registered := by
  have orderly := reachable.orderly
  refine ⟨fun label next => registered_step_iff orderly registered, fun final runs => ?_⟩
  refine (runs.invariant (fun system => system.Orderly ∧ system.core.state = .registered)
    ⟨orderly, registered⟩ ?_).2
  intro current label next ⟨ordered, stayed⟩ keeps stepped
  refine ⟨ordered.step stepped, ?_⟩
  rcases (registered_step_iff ordered stayed stepped).mpr keeps.2 with kept | ends
  · exact kept
  · exact absurd ends keeps.1

end System

section Reference

local instance stabilityPlatform : Platform := reference

namespace System

/-- A session that was welcomed stays registered, step by step and over runs. -/
theorem registered_stable_welcomed :
    ∃ system : System, system.core.state = .registered ∧
      (∀ label next, transition system label = some next →
        (next.core.state = .registered ∨ system.EndsRegistration label ↔
          ¬ system.EjectsRegistration label)) ∧
        ∀ final, Semantics.Runs transition KeepsRegistration system final →
          final.core.state = .registered := by
  have ends : ((initial plaintextProfile).run (underOneClock (connectActions ++
      readActions [":s CAP * LS :", ":s 001 nick :hi"]))).any
      (fun system => system.core.state = .registered) = true := by
    decide +kernel
  obtain ⟨system, taken, holds⟩ := exists_of_any ends
  have registered : system.core.state = .registered := by simpa using holds
  exact ⟨system, registered, registered_stable (.of_runAll taken) registered⟩

/-- The answer to a failed OPER fails a registered session. -/
theorem rejected_oper_fails :
    ¬ ∀ config system, Reachable config system → system.core.state = .registered →
      ∀ frame message, parse frame = .ok message → message.command ≠ "ERROR" →
        (system.core.handleFrame frame).state = .registered ∨
          (system.core.handleFrame frame).state = .stsUpgrading := by
  intro law
  have ends : ((initial plaintextProfile).run (underOneClock (connectActions ++
      readActions [":s CAP * LS :", ":s 001 nick :hi"]))).any
      (fun system => system.core.state = .registered &&
        (system.core.handleFrame (utf8 ":s 464 nick :Password incorrect")).state = .failed) =
        true := by
    decide +kernel
  obtain ⟨system, taken, holds⟩ := exists_of_any ends
  simp only [Bool.and_eq_true, decide_eq_true_eq] at holds
  have parsed : (parse (utf8 ":s 464 nick :Password incorrect")).toOption.any
      (fun message => message.command ≠ "ERROR") = true := by decide
  cases line : parse (utf8 ":s 464 nick :Password incorrect") with
  | error error => simp [line, Except.toOption] at parsed
  | ok message =>
      have other : message.command ≠ "ERROR" := by simpa [line, Except.toOption] using parsed
      rcases law _ system (.of_runAll taken) holds.1 _ message line other with kept | upgraded
      · exact absurd (holds.2.symm.trans kept) (by decide)
      · exact absurd (holds.2.symm.trans upgraded) (by decide)

end System

end Reference

end Omairc.Session
