import Omairc.Session.LedgerSteps

/-!
# The ledgers over runs

Every step moves the ledgers or handles a BATCH line, so what each move and each BATCH
line keeps of them holds in every reachable session.
-/

namespace Omairc.Session

open Omairc.Text Omairc.Irc

/-- One operation on the ledgers, among those that steps combine. -/
inductive LedgerMove [Platform] (unsettled : Prop) (core : Core) : Core → Prop
  | line {changed : Core} (move : LineMove unsettled core changed) : LedgerMove unsettled core changed
  | resets : LedgerMove unsettled core core.resetForConnection

/-- Operations on the ledgers, in order. -/
def LedgerMoves [Platform] (unsettled : Prop) : Core → Core → Prop :=
  Relation.ReflTransGen (LedgerMove unsettled)

namespace LedgerMoves

variable [Platform] {unsettled : Prop} {core middle changed : Core}

theorem refl (core : Core) : LedgerMoves unsettled core core := Relation.ReflTransGen.refl

theorem trans (first : LedgerMoves unsettled core middle) (second : LedgerMoves unsettled middle changed) :
    LedgerMoves unsettled core changed := Relation.ReflTransGen.trans first second

/-- The operations of one connection. -/
theorem of_line (moves : LineMoves unsettled core changed) : LedgerMoves unsettled core changed :=
  Relation.ReflTransGen.mono (fun _ _ move => .line move) _ _ moves

theorem of_quiet (change : Quiet core changed) : LedgerMoves unsettled core changed :=
  of_line (.of_quiet change)

/-- What every move keeps, moves keep. -/
theorem invariant (Invariant : Ledgers → Prop)
    (kept : ∀ {core changed : Core}, LedgerMove unsettled core changed → Invariant core.ledgers →
      Invariant changed.ledgers)
    (moves : LedgerMoves unsettled core changed) (holds : Invariant core.ledgers) :
    Invariant changed.ledgers := by
  induction moves with
  | refl => exact holds
  | tail prior move inductionHypothesis => exact kept move inductionHypothesis

end LedgerMoves

namespace Core

variable [Platform] {unsettled : Prop} (core : Core)

theorem resetForConnection_moves : LedgerMoves unsettled core core.resetForConnection :=
  Relation.ReflTransGen.single .resets

omit [Platform] in
theorem connectTransport_quiet : Quiet core core.connectTransport := rfl

theorem start_moves : LedgerMoves unsettled core core.start := by
  unfold start
  split_ifs
  · exact .refl core
  · exact .of_line (core.fail_moves _ _ _)
  · have fresh : Quiet core
        { core with
          connection := core.connection.beginStart
          port := core.config.port
          tlsEnabled := core.config.tlsEnabled
          stsDuration := none } := rfl
    simp only
    revert fresh
    generalize ({ core with
      connection := core.connection.beginStart
      port := core.config.port
      tlsEnabled := core.config.tlsEnabled
      stsDuration := none } : Core) = begun
    intro fresh
    have cached := (fresh.trans (applyCachedSts_quiet begun))
    refine LedgerMoves.trans ((LedgerMoves.of_quiet cached).trans (resetForConnection_moves _)) ?_
    exact .of_quiet ((setState_quiet _ _).trans (connectTransport_quiet _))

theorem stop_moves : LineMoves unsettled core core.stop := by
  have disarmed : LineMoves unsettled core
      (((({ core.rescheduleStsExpiry with
        connection := core.rescheduleStsExpiry.connection.beginStop }.cancelTimer
          .reconnect).cancelTimer .capability).cancelTimer
            .registration).cancelPingWatchdog.clearPendingRequestLabels) := by
    refine LineMoves.trans (.of_quiet ?_) (.single (.label .clears))
    refine Quiet.trans ?_ (cancelPingWatchdog_quiet _)
    refine Quiet.trans ?_ (cancelTimer_quiet _ (by decide))
    refine Quiet.trans ?_ (cancelTimer_quiet _ (by decide))
    refine Quiet.trans ?_ (cancelTimer_quiet _ (by decide))
    exact core.rescheduleStsExpiry_quiet.before rfl
  unfold stop
  simp only
  revert disarmed
  generalize Core.clearPendingRequestLabels _ = disarmed
  intro moved
  split_ifs
  · exact moved
  · exact moved.trans (.of_quiet (setState_quiet _ _))
  · exact moved.trans (.of_quiet ((setState_quiet _ _).before rfl))

theorem quit_moves (reason : String) : LineMoves unsettled core (core.quit reason).1 := by
  unfold quit
  split_ifs
  · exact .refl core
  · split
    · rename_i sent result
      exact (LineMoves.of_quiet ((core.sendText_quiet _).of_result result)).trans
        sent.stop_moves
    · rename_i refused result
      exact .of_quiet ((core.sendText_quiet _).of_result result)
  · split
    · rename_i sent result
      exact (LineMoves.of_quiet ((core.sendText_quiet _).of_result result)).trans
        sent.stop_moves
    · rename_i refused result
      exact .of_quiet ((core.sendText_quiet _).of_result result)
  · exact core.stop_moves

theorem send_moves (operation : SendOperation)
    (allowed : ∀ target after, operation = .historyAfter target after → unsettled) :
    LineMoves unsettled core (core.send operation).1 := by
  have text (command : String) : LineMoves unsettled core (core.sendText command).1 :=
    .of_quiet (core.sendText_quiet command)
  have away (reason : String) : LineMoves unsettled core (core.setAwayLocked reason).1 := by
    unfold setAwayLocked
    split
    all_goals exact text _
  cases operation with
  | privmsg target body => exact .of_quiet (core.sendPrivmsgLocked_quiet _ _)
  | notice target body =>
      simp only [send, sendNotice]
      split
      · exact .refl core
      · exact .of_quiet (core.sendTrailingBody_quiet _ _ _ _)
  | action target body => exact .of_quiet (core.sendAction_quiet _ _)
  | ctcp target command argument requestLabel =>
      simp only [send, sendCtcp]
      split
      · exact .refl core
      · exact .of_quiet (core.sendTrailingBody_quiet _ _ _ _)
  | typing target phase => exact .of_quiet (core.sendTyping_quiet _ _)
  | channelMode request => exact text _
  | join target => exact .of_quiet (core.joinLocked_quiet _)
  | part channel =>
      simp only [send]
      split
      · exact .refl core
      · exact text _
  | kick channel nick reason =>
      simp only [send, kick]
      split
      · exact .refl core
      · exact text _
  | kickban channel mask nick reason =>
      simp only [send, kickban, sendChannelMode]
      split
      · exact .refl core
      · split
        · rename_i banned result
          have first := (text _).of_result result
          rw [kick]
          split
          · exact first
          · exact first.trans (.of_quiet (sendText_quiet _ _))
        · rename_i refused result
          exact (text _).of_result result
  | invite nick channel =>
      simp only [send]
      split
      · exact .refl core
      · exact text _
  | setTopic channel topic =>
      simp only [send]
      split
      · exact .refl core
      · exact text _
  | setAway reason => exact away reason
  | markAway reason =>
      simp only [send, markAway]
      split
      all_goals exact text _
  | clearAway => exact away ""
  | clearOwnMetadata key => exact .of_quiet (core.setOwnMetadata_quiet _ _)
  | changeNick nick =>
      simp only [send]
      split
      · exact .refl core
      · exact text _
  | whois nick requestLabel =>
      simp only [send, sendWhois]
      split
      · exact .refl core
      · exact .of_quiet (core.sendCommand_quiet _ _)
  | monitor modifier nicks =>
      simp only [send, sendMonitorLocked]
      split_ifs
      any_goals exact .refl core
      · exact text _
      · exact .of_quiet (core.packMonitor_quiet _ _ _)
  | list mask =>
      simp only [send, listChannels]
      split_ifs
      · exact .refl core
      · exact text _
      · exact text _
  | raw line => exact text _
  | olderHistory target msgid timestamp => exact .single (.history (.older target msgid timestamp))
  | historyAfter target after =>
      exact .single (.history (.after target after (allowed target after rfl)))
  | historyLatest target => exact .single (.history (.latest target))
  | historyTargets start stop => exact .single (.history (.targets start stop))
  | readMarkerGet target =>
      simp only [send, requestReadMarkerGet]
      split
      · exact .refl core
      · exact .of_quiet (core.sendCommand_quiet _ _)

theorem beginReconnectAttempt_moves : LedgerMoves unsettled core core.beginReconnectAttempt := by
  unfold beginReconnectAttempt
  split
  · exact .refl core
  · have reconnect : TimerSlot.reconnect ≠ .label := by decide
    have cached := (core.cancelTimer_quiet reconnect).trans (applyCachedSts_quiet _)
    refine LedgerMoves.trans ((LedgerMoves.of_quiet cached).trans (resetForConnection_moves _)) ?_
    exact .of_quiet ((setState_quiet _ _).trans (connectTransport_quiet _))

theorem onDisconnected_moves : LedgerMoves unsettled core core.onDisconnected := by
  unfold onDisconnected
  generalize core.connection.onDisconnect core.state = ended
  obtain ⟨connection, outcome⟩ := ended
  have noted : Quiet core { core with connection } := rfl
  simp only
  revert noted
  generalize ({ core with connection } : Core) = noted
  intro quiet
  have expiring : LedgerMoves unsettled core noted.rescheduleStsExpiry :=
    .of_quiet (quiet.trans noted.rescheduleStsExpiry_quiet)
  cases outcome with
  | finishStsUpgrade =>
      exact ((LedgerMoves.of_quiet quiet).trans (resetForConnection_moves _)).trans
        (.of_quiet (connectTransport_quiet _))
  | scheduleReconnect => exact expiring.trans (.of_quiet (scheduleReconnect_quiet _))
  | settleIdle => exact expiring.trans (.of_quiet (setState_quiet _ _))
  | failUnexpected => exact expiring.trans (.of_line (fail_moves _ _ _ _))
  | ignore => exact expiring

theorem errorOccurred_moves (error : TransportError) :
    LineMoves unsettled core (core.errorOccurred error) := by
  unfold errorOccurred
  split
  · exact .refl core
  · exact core.fail_moves _ _ _

theorem timerFired_moves (slot : TimerSlot) (id : Nat) :
    LedgerMoves unsettled core (core.timerFired slot id) := by
  have disarmed (other : slot ≠ .label) : LedgerMoves unsettled core (core.cancelTimer slot) :=
    .of_quiet (core.cancelTimer_quiet other)
  unfold timerFired
  split
  · exact .refl core
  · cases slot with
    | reconnect => exact (disarmed (by decide)).trans (beginReconnectAttempt_moves _)
    | capability => exact (disarmed (by decide)).trans (.of_quiet (onCapabilityTimeout_quiet _))
    | registration => exact (disarmed (by decide)).trans (.of_line (onRegistrationTimeout_moves _))
    | ping => exact (disarmed (by decide)).trans (.of_line (onPingWatchdogFired_moves _))
    | label => exact .of_line (.single (.label .expires))

theorem beginRead_quiet (bytes : Bytes) : Quiet core (core.beginRead bytes).1 := by
  have watched : Quiet core (if core.ping = .watching then core.armPingWatchdog else core) := by
    split
    · exact core.armPingWatchdog_quiet
    · exact .refl core
  unfold beginRead
  simp only
  revert watched
  generalize (if core.ping = .watching then core.armPingWatchdog else core) = restarted
  intro watched
  generalize restarted.framer.feed bytes = fed
  have refed : Quiet core { restarted with framer := fed.1 } := watched
  exact refed.trans (.foldl (fun core fault => .emit core ⟨rfl, rfl⟩) _ _)

end Core

/-- An action that may adopt features or start an AFTER chain: a line or a call. -/
def Action.unsettles (action : Action) : Prop :=
  action = .handleLine ∨ ∃ target after, action = .send (.historyAfter target after)

variable [Platform] {unsettled : Prop}

/-- Every other entry point moves the ledgers. -/
theorem Entry.moves {core entered : Core} {action : Action} (entry : Entry core action entered)
    (unlabeled : action ≠ .startLabeledRequest) (kept : ∀ label, action ≠ .cancelRequestLabel label)
    (allowed : action.unsettles → unsettled) : LedgerMoves unsettled core entered := by
  have arrived (transport : Transport) : Quiet core (core.withTransport transport) := rfl
  cases entry with
  | start => exact core.start_moves
  | stop => exact .of_line core.stop_moves
  | quit reason => exact .of_line (core.quit_moves reason)
  | send operation =>
      refine .of_line (core.send_moves operation fun target after same => allowed (.inr ?_))
      exact ⟨target, after, congrArg Action.send same⟩
  | startLabeledRequest => exact absurd rfl unlabeled
  | cancelRequestLabel label => exact absurd rfl (kept label)
  | setOwnMetadata key value => exact .of_quiet (core.setOwnMetadata_quiet key value)
  | queueReadMarkerSet target time => exact .of_line (.single (.marker (.queues target time)))
  | notifyReachable => exact core.beginReconnectAttempt_moves
  | setIgnoreFilter filter => exact .of_quiet rfl
  | setHistoryResume resume => exact .of_quiet rfl
  | connected connecting => exact .of_quiet ((arrived _).trans (Core.onConnected_quiet _))
  | encrypted connected tls => exact .of_quiet ((arrived _).trans (Core.onEncrypted_quiet _))
  | closed isOpen => exact (LedgerMoves.of_quiet (arrived _)).trans (Core.onDisconnected_moves _)
  | transportFailed error inFlight =>
      exact .of_line ((LineMoves.of_quiet (arrived _)).trans (Core.errorOccurred_moves _ error))
  | silentRead bytes delivers framesless => exact .of_quiet (core.beginRead_quiet bytes)
  | timerFired slot id => exact core.timerFired_moves slot id
  | metadataRetry target =>
      refine .of_quiet (Quiet.trans ?_ (Core.sendCommand_quiet _ _ _))
      rfl

/-- What a step does to the ledgers by itself. -/
inductive LedgerEvent
  | batch (message : IrcMessage)
  | collects (message : IrcMessage)
  | begins
  | drops (label : String)

/-- The session after an event of its ledgers. -/
def LedgerEvent.apply (core : Core) : LedgerEvent → Core
  | .batch message => (core.reportInbound message).handleBatch message
  | .collects message => ((core.prepareMessage message).captureInBatch message).1
  | .begins => core.beginLabeledRequest.1
  | .drops label => core.dropRequestLabel label

namespace System

variable {system next : System} {readings : Readings} {action : Action}

omit [Platform] in
theorem dispatchEffects_quiet (core : Core) (left : List Effect) :
    Quiet core (dispatchEffects core left).core := rfl

theorem performEffect_moves (core : Core) (effect : Effect) (left : List Effect) :
    LedgerMoves unsettled core (performEffect core effect left).core := by
  have arrived (transport : Transport) : Quiet core (core.withTransport transport) := rfl
  cases effect with
  | write frame => exact .refl core
  | connect host port tls =>
      rw [performEffect]
      split
      · exact .refl core
      · exact .of_quiet (arrived _)
  | shutdown =>
      rw [performEffect]
      split
      · refine LedgerMoves.trans ?_ (.of_quiet (dispatchEffects_quiet _ left))
        exact (LedgerMoves.of_quiet (arrived _)).trans (Core.onDisconnected_moves _)
      · exact .refl core
  | settleStop =>
      rw [performEffect]
      split
      · exact .of_quiet ((core.setState_quiet _).trans (dispatchEffects_quiet _ left))
      · exact .refl core

/-- The message that a step dispatches, if it dispatches one. -/
def dispatchedLine (system : System) (action : Action) : Option IrcMessage :=
  match action, system.reading with
  | .handleLine, frame :: _ =>
      if system.core.state = .stsUpgrading then none
      else
        match parse frame with
        | .ok message => if system.core.ignores message then none else some message
        | .error _ => none
  | _, _ => none

/-- The BATCH message that a step handles, if it handles one. -/
def batchLine (system : System) (action : Action) : Option IrcMessage :=
  (system.dispatchedLine action).filter fun message => message.command = "BATCH"

/-- The message that a step collects in a batch, if it collects one. -/
def collectedLine (system : System) (action : Action) : Option IrcMessage :=
  (system.dispatchedLine action).filter fun message =>
    message.command ≠ "BATCH" && (system.core.captureInBatch message).2

/-- The event of the ledgers that a step performs, if it performs one. -/
def ledgerEvent (system : System) (action : Action) : Option LedgerEvent :=
  match action with
  | .startLabeledRequest =>
      if .labeledResponse ∈ system.core.caps.enabled then some .begins else none
  | .cancelRequestLabel label => some (.drops label)
  | action =>
      ((system.batchLine action).map .batch).or ((system.collectedLine action).map .collects)

omit [Platform] in
/-- The action that performs an event. -/
theorem action_of_ledgerEvent {event : LedgerEvent}
    (found : system.ledgerEvent action = some event) :
    match event with
    | .batch message => action = .handleLine ∧ system.batchLine .handleLine = some message
    | .collects message => action = .handleLine ∧ system.collectedLine .handleLine = some message
    | .begins => action = .startLabeledRequest ∧ .labeledResponse ∈ system.core.caps.enabled
    | .drops label => action = .cancelRequestLabel label := by
  cases action
  case startLabeledRequest =>
    simp only [ledgerEvent] at found
    split at found
    · rename_i enabled
      cases found
      exact ⟨rfl, enabled⟩
    · cases found
  case cancelRequestLabel label =>
    cases found
    rfl
  case handleLine =>
    simp only [ledgerEvent] at found
    rcases Option.or_eq_some_iff.mp found with batches | ⟨-, collects⟩
    · obtain ⟨message, batch, rfl⟩ := Option.map_eq_some_iff.mp batches
      exact ⟨rfl, batch⟩
    · obtain ⟨message, collected, rfl⟩ := Option.map_eq_some_iff.mp collects
      exact ⟨rfl, collected⟩
  all_goals cases found

/-- A line moves the ledgers, or is their one event. -/
theorem line_moves (core : Core) {frame : Bytes} {rest : List Bytes}
    (reading : system.reading = frame :: rest) (settled : system.core.state ≠ .stsUpgrading)
    (ignoring : core.ignores = system.core.ignores) (batches : core.batches = system.core.batches) :
    match system.ledgerEvent .handleLine with
    | none => LineMoves True core (core.handleFrame frame)
    | some event => core.handleFrame frame = event.apply core := by
  have dispatched : system.dispatchedLine .handleLine =
      match parse frame with
      | .ok message => if system.core.ignores message then none else some message
      | .error _ => none := by
    simp only [dispatchedLine, reading, if_neg settled]
  simp only [ledgerEvent, batchLine, collectedLine, dispatched]
  rw [Core.handleFrame]
  cases parsed : parse frame with
  | error error => exact .of_quiet (.emit core ⟨rfl, rfl⟩)
  | ok message =>
      have captures := system.core.captureInBatch_congr core batches message
      simp only
      rw [← ignoring]
      by_cases ignored : core.ignores message = true
      · rw [if_pos ignored]
        exact core.handleMessage_moves (.inl ignored)
      · rw [if_neg ignored]
        have unignored := eq_false_of_ne_true ignored
        by_cases batch : message.command = "BATCH"
        · have line := core.handleMessage_of_batch unignored batch
          rw [Option.filter_some, if_pos (by simpa using batch)]
          exact line
        · by_cases captured : (core.captureInBatch message).2 = true
          · have line := core.handleMessage_of_captured unignored batch captured
            rw [captures] at captured
            rw [Option.filter_some, if_neg (by simpa using batch), Option.filter_some,
              if_pos (by simpa using ⟨batch, captured⟩)]
            exact line
          · have uncaptured := eq_false_of_ne_true captured
            have line := core.handleMessage_moves (.inr ⟨batch, uncaptured⟩)
            rw [captures] at uncaptured
            rw [Option.filter_some, if_neg (by simpa using batch), Option.filter_some,
              if_neg (by simp [uncaptured])]
            exact line

/-- A step that handles a line resets no ledger. -/
theorem step_lineMoves (orderly : system.Orderly)
    (stepped : system.step readings .handleLine = some next)
    (silent : system.ledgerEvent .handleLine = none) :
    LineMoves True (system.core.withReadings readings) next.core := by
  cases step_outcome orderly stepped with
  | enters quiet resting entry => cases entry
  | drops reading resting delivers upgrading => exact .of_quiet (dispatchEffects_quiet _ _)
  | handles reading resting delivers settled more =>
      have line := line_moves (system.core.withReadings readings) reading settled rfl rfl
      rw [silent] at line
      exact line
  | finishes reading resting delivers settled =>
      have line := line_moves (system.core.withReadings readings) reading settled rfl rfl
      rw [silent] at line
      exact line.trans (.of_quiet (dispatchEffects_quiet _ _))

/-- A step moves the ledgers as its action allows, or performs its one event. -/
theorem step_moves_of (orderly : system.Orderly) (stepped : system.step readings action = some next)
    (allowed : action.unsettles → unsettled) :
    match system.ledgerEvent action with
    | none => LedgerMoves unsettled (system.core.withReadings readings) next.core
    | some event => Quiet (event.apply (system.core.withReadings readings)) next.core := by
  have unread (other : system.reading = []) (unlabeled : action ≠ .startLabeledRequest)
      (kept : ∀ label, action ≠ .cancelRequestLabel label) : system.ledgerEvent action = none := by
    cases action
    all_goals first
      | rfl
      | exact absurd rfl unlabeled
      | exact absurd rfl (kept _)
      | simp [ledgerEvent, batchLine, collectedLine, dispatchedLine, other]
  cases step_outcome orderly stepped with
  | enters quiet resting entry =>
      by_cases unlabeled : action = .startLabeledRequest
      · subst unlabeled
        cases entry
        have same : (system.core.withReadings readings).caps = system.core.caps := rfl
        simp only [ledgerEvent, Core.startLabeledRequest, same]
        by_cases enabled : .labeledResponse ∈ system.core.caps.enabled
        · rw [if_pos enabled, if_neg (not_not.mpr enabled)]
          exact dispatchEffects_quiet _ _
        · rw [if_neg enabled, if_pos enabled]
          exact .of_quiet (dispatchEffects_quiet _ _)
      · by_cases kept : ∀ label, action ≠ .cancelRequestLabel label
        · rw [unread resting.2 unlabeled kept]
          exact (entry.moves unlabeled kept allowed).trans (.of_quiet (dispatchEffects_quiet _ _))
        · simp only [not_forall, not_not] at kept
          obtain ⟨label, rfl⟩ := kept
          cases entry
          exact dispatchEffects_quiet _ _
  | shuts quiet resting => exact .refl _
  | reads quiet resting delivers frames => exact .of_quiet (Core.beginRead_quiet _ _)
  | drops reading resting delivers upgrading =>
      have silent : system.ledgerEvent .handleLine = none := by
        have kept : system.core.state = .stsUpgrading := upgrading
        simp [ledgerEvent, batchLine, collectedLine, dispatchedLine, reading, kept]
      rw [silent]
      exact .of_quiet (dispatchEffects_quiet _ _)
  | handles reading resting delivers settled more =>
      have line := line_moves (system.core.withReadings readings) reading settled rfl rfl
      split at line
      · exact .of_line (line.widen fun _ => allowed (.inl rfl))
      · rw [← line]
        exact .refl _
  | finishes reading resting delivers settled =>
      have line := line_moves (system.core.withReadings readings) reading settled rfl rfl
      split at line
      · refine .of_line (LineMoves.trans (line.widen fun _ => allowed (.inl rfl)) ?_)
        exact .of_quiet (dispatchEffects_quiet _ _)
      · rw [← line]
        exact dispatchEffects_quiet _ _
  | performs quiet read running => exact performEffect_moves _ _ _

/-- A step moves the ledgers, or performs its one event. -/
theorem step_moves (orderly : system.Orderly) (stepped : system.step readings action = some next) :
    match system.ledgerEvent action with
    | none => LedgerMoves True (system.core.withReadings readings) next.core
    | some event => Quiet (event.apply (system.core.withReadings readings)) next.core :=
  step_moves_of orderly stepped fun _ => trivial

/-- What every move and every event that the guard allows keeps, holds wherever a guarded
run arrives. -/
theorem ledger_invariant {guard : System → Readings × Action → Prop} {config : SessionConfig}
    (Invariant : Ledgers → Prop) (initially : Invariant (Core.new config).ledgers)
    (timeless : ∀ {ledgers : Ledgers} (now : Instant), Invariant ledgers →
      Invariant { ledgers with now })
    (moved : ∀ {core changed : Core}, LedgerMove True core changed → Invariant core.ledgers →
      Invariant changed.ledgers)
    (performed : ∀ {system : System} {label : Readings × Action} {event : LedgerEvent} {core : Core},
      guard system label → system.ledgerEvent label.2 = some event →
      core = system.core.withReadings label.1 → Invariant core.ledgers →
      Invariant (event.apply core).ledgers)
    (runs : Semantics.Runs transition guard (initial config) system) :
    Invariant system.core.ledgers := by
  suffices both : system.Orderly ∧ Invariant system.core.ledgers from both.2
  refine runs.invariant (fun system => system.Orderly ∧ Invariant system.core.ledgers) ?_ ?_
  · exact ⟨⟨fun _ => rfl, fun reads => absurd rfl reads⟩, initially⟩
  · intro current label next holds allowed stepped
    obtain ⟨orderly, holds⟩ := holds
    refine ⟨orderly.step stepped, ?_⟩
    have read : Invariant (current.core.withReadings label.1).ledgers := timeless label.1.now holds
    have moves := step_moves orderly stepped
    split at moves
    · exact moves.invariant Invariant moved read
    · rename_i event found
      rw [show next.core.ledgers = _ from moves]
      exact performed allowed found rfl read

end System

end Omairc.Session
