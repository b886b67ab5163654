import Mathlib.Logic.Relation
import Mathlib.Tactic.Simps.Basic
import Omairc.Session.Projections
import Omairc.Session.Lifecycle
import Omairc.Session.Outbound
import Omairc.Session.Sink

/-!
# The ledgers of the features

The batches, the history requests, the read markers and the labels are ledgers that few
operations write. `LineMove` lists those that lines and calls combine; besides them a new
connection resets the ledgers, and a step alone handles a BATCH line, collects a line in a
batch, or begins or drops a label. Every other operation is quiet, and the invariants of the
ledgers are proved move by move.
-/

namespace Omairc.Session

open Omairc.Text Omairc.Irc

/-- The label whose end an event reports. -/
def SessionEvent.finishedLabel : SessionEvent → Option String
  | .requestLabelFinished _ label => some label
  | _ => none

/-- The batch an event delivers. -/
def SessionEvent.deliveredBatch : SessionEvent → Option HistoryBatch
  | .historyBatchReceived _ batch => some batch
  | _ => none

/-- An event that reports on no ledger. -/
def SessionEvent.IsPlain (event : SessionEvent) : Prop :=
  event.finishedLabel = none ∧ event.deliveredBatch = none

/-- The ledgers of a session, with what was reported of them and the clock they read. -/
@[ext] structure Ledgers where
  batches : BatchLedger
  history : HistoryLedger
  readMarkers : ReadMarkerLedger
  pendingLabels : StringMap Instant
  nextRequestLabel : Nat
  labelTimer : Option ArmedTimer
  now : Instant
  features : IrcServerFeatures
  finishedLabels : List String
  deliveredBatches : List HistoryBatch

/-- The ledger part of a session. -/
@[simps] def Core.ledgers (core : Core) : Ledgers where
  batches := core.batches
  history := core.history
  readMarkers := core.readMarkers
  pendingLabels := core.pendingLabels
  nextRequestLabel := core.nextRequestLabel
  labelTimer := core.timers .label
  now := core.readings.now
  features := core.features
  finishedLabels := core.events.filterMap SessionEvent.finishedLabel
  deliveredBatches := core.events.filterMap SessionEvent.deliveredBatch

/-- A change that leaves every ledger as it is. -/
def Quiet (core changed : Core) : Prop := changed.ledgers = core.ledgers

namespace Quiet

variable {core middle changed : Core}

theorem refl (core : Core) : Quiet core core := rfl

theorem trans (first : Quiet core middle) (second : Quiet middle changed) : Quiet core changed :=
  Eq.trans second first

/-- A quiet change after one that touches no ledger. -/
theorem after (second : Quiet middle changed) (same : middle.ledgers = core.ledgers) :
    Quiet core changed := Eq.trans second same

/-- A change that touches no ledger after a quiet one. -/
theorem before (first : Quiet core middle) (same : changed.ledgers = middle.ledgers) :
    Quiet core changed := Eq.trans same first

/-- The core of a quiet result is quiet, whatever was reported with it. -/
theorem of_result {α : Type} {result : Core × α} {reported : α} (change : Quiet core result.1)
    (same : result = (changed, reported)) : Quiet core changed := by
  rw [same] at change
  exact change

/-- A plain event is quiet. -/
theorem emit (core : Core) {event : SessionEvent} (plain : event.IsPlain) :
    Quiet core (core.emit event) := by
  simp [Quiet, Core.ledgers, Core.emit, plain.1, plain.2]

/-- A fold of quiet changes is quiet. -/
theorem foldl {α : Type} {change : Core → α → Core}
    (each : ∀ core item, Quiet core (change core item)) (items : List α) (core : Core) :
    Quiet core (items.foldl change core) := by
  induction items generalizing core with
  | nil => exact refl core
  | cons item rest tail => exact (each core item).trans (tail (change core item))

end Quiet

namespace Core

variable (core : Core)

/-! ## The quiet operations -/

theorem armTimer_quiet {slot : TimerSlot} (other : slot ≠ .label) (delay : Nat) :
    Quiet core (core.armTimer slot delay) := by
  simp [Quiet, ledgers, armTimer, Function.update_of_ne other.symm]

theorem cancelTimer_quiet {slot : TimerSlot} (other : slot ≠ .label) :
    Quiet core (core.cancelTimer slot) := by
  simp [Quiet, ledgers, cancelTimer, Function.update_of_ne other.symm]

theorem setState_quiet (state : SessionState) : Quiet core (core.setState state) := by
  unfold setState
  split
  · exact .refl core
  · refine Quiet.after (.emit _ ⟨rfl, rfl⟩) ?_
    split
    all_goals rfl

theorem sendLine_quiet (built : Bytes) : Quiet core (core.sendLine built) := by
  unfold sendLine
  split
  · exact .refl core
  · exact (Quiet.emit core ⟨rfl, rfl⟩).before rfl

theorem sendCommand_quiet (command : Bytes) (requestLabel : String) :
    Quiet core (core.sendCommand command requestLabel).1 := by
  unfold sendCommand
  repeat' split
  any_goals exact .refl core
  exact core.sendLine_quiet _

theorem sendText_quiet (command : String) : Quiet core (core.sendText command).1 :=
  core.sendCommand_quiet _ _

theorem sendChunks_quiet (lead suffix : Bytes) (requestLabel : String) (chunks : List Bytes)
    (core : Core) : Quiet core (core.sendChunks lead suffix requestLabel chunks).1 := by
  induction chunks generalizing core with
  | nil => exact .refl core
  | cons chunk rest tail =>
      have first := core.sendCommand_quiet (lead ++ chunk ++ suffix) requestLabel
      rw [sendChunks]
      split
      · rename_i sent result
        exact (first.of_result result).trans (tail sent)
      · rename_i refused result
        exact first.of_result result

theorem sendTrailingBody_quiet (lead body suffix : Bytes) (requestLabel : String) :
    Quiet core (core.sendTrailingBody lead body suffix requestLabel).1 := by
  unfold sendTrailingBody
  simp only
  repeat' split
  any_goals exact .refl core
  exact sendChunks_quiet _ _ _ _ core

theorem publishCapabilities_quiet : Quiet core core.publishCapabilities := by
  unfold publishCapabilities
  split
  · exact .refl core
  · exact (Quiet.emit _ ⟨rfl, rfl⟩).after rfl

theorem cancelPingWatchdog_quiet : Quiet core core.cancelPingWatchdog :=
  (cancelTimer_quiet _ (by decide)).after rfl

theorem armPingWatchdog_quiet : Quiet core core.armPingWatchdog := by
  unfold armPingWatchdog
  split
  · exact .refl core
  · exact (armTimer_quiet _ (by decide) _).after rfl

theorem scheduleReconnect_quiet : Quiet core core.scheduleReconnect := by
  unfold scheduleReconnect
  simp only
  repeat' split
  · exact core.setState_quiet _
  · exact .refl core
  · refine Quiet.trans ?_ (.emit _ ⟨rfl, rfl⟩)
    refine Quiet.trans ?_ (armTimer_quiet _ (by decide) _)
    exact (setState_quiet _ _).after rfl

theorem reportRetryable_quiet (kind : ErrorKind) (message : String) :
    Quiet core (core.reportRetryable kind message) := by
  unfold reportRetryable
  simp only
  split
  · exact (Quiet.emit _ ⟨rfl, rfl⟩).after rfl
  · rfl

theorem rescheduleStsExpiry_quiet : Quiet core core.rescheduleStsExpiry := by
  unfold rescheduleStsExpiry
  repeat' split
  all_goals rfl

theorem applyCachedSts_quiet : Quiet core core.applyCachedSts := by
  unfold applyCachedSts
  split
  all_goals rfl

theorem beginStsUpgrade_quiet (port : UInt16) : Quiet core (core.beginStsUpgrade port) := by
  have moved := setState_quiet { core with port, tlsEnabled := true } .stsUpgrading
  have told : SessionEvent.IsPlain (.lifecycle core.networkId .info "sts"
      ("Upgraded to TLS on port " ++ toString port.toNat) core.now) := ⟨rfl, rfl⟩
  exact ((moved.trans (.emit _ told)).after rfl).before rfl

theorem handleStsAdvertisement_quiet (advertisement : Option StsAdvertisement) :
    Quiet core (core.handleStsAdvertisement advertisement) := by
  unfold handleStsAdvertisement
  repeat' split
  any_goals rfl
  exact core.beginStsUpgrade_quiet _

theorem recordAutojoin_quiet (channel : String) (joined : Bool) :
    Quiet core (core.recordAutojoin channel joined) := by
  unfold recordAutojoin recordJoin recordLeave emitAutojoinChanged forgetPendingJoinKey
  simp only
  repeat' split
  all_goals first
    | rfl
    | exact (Quiet.emit _ ⟨rfl, rfl⟩).after rfl

theorem dropStoredAutojoinKey_quiet (channel : String) :
    Quiet core (core.dropStoredAutojoinKey channel) := by
  unfold dropStoredAutojoinKey emitAutojoinChanged forgetPendingJoinKey
  simp only
  repeat' split
  all_goals first
    | rfl
    | exact (Quiet.emit _ ⟨rfl, rfl⟩).after rfl

theorem joinLocked_quiet (target : IrcJoinTarget) : Quiet core (core.joinLocked target).1 := by
  unfold joinLocked
  simp only
  repeat' split
  any_goals exact .refl core
  · exact (sendLine_quiet _ _).after rfl
  · exact sendLine_quiet _ _

theorem setOwnMetadata_quiet (key value : String) : Quiet core (core.setOwnMetadata key value).1 := by
  unfold setOwnMetadata
  simp only
  repeat' split
  any_goals exact .refl core
  all_goals
    rename_i result
    exact (sendCommand_quiet _ _ _).of_result result

theorem sendPrivmsgLocked_quiet (target body : String) :
    Quiet core (core.sendPrivmsgLocked target body).1 := by
  unfold sendPrivmsgLocked
  repeat' split
  · exact .refl core
  · rename_i result
    exact ((sendTrailingBody_quiet _ _ _ _ _).of_result result).before rfl
  · rename_i result
    exact (sendTrailingBody_quiet _ _ _ _ _).of_result result

theorem sendAction_quiet (target body : String) : Quiet core (core.sendAction target body).1 := by
  unfold sendAction
  repeat' split
  · exact .refl core
  · rename_i result
    exact ((sendTrailingBody_quiet _ _ _ _ _).of_result result).before rfl
  · rename_i result
    exact (sendTrailingBody_quiet _ _ _ _ _).of_result result

theorem probeChannelAway_quiet (channel : String) : Quiet core (core.probeChannelAway channel) := by
  unfold probeChannelAway
  split
  · exact .refl core
  · exact sendCommand_quiet _ _ _

theorem subscribeToMemberMetadata_quiet : Quiet core core.subscribeToMemberMetadata := by
  unfold subscribeToMemberMetadata
  simp only
  repeat' split
  any_goals exact .refl core
  exact core.sendLine_quiet _

theorem emitMessageReceived_quiet (message : IrcMessage) :
    Quiet core (core.emitMessageReceived message) := (Quiet.emit _ ⟨rfl, rfl⟩).after rfl

theorem noteNickChange_quiet (message : IrcMessage) : Quiet core (core.noteNickChange message) := by
  unfold noteNickChange
  simp only
  split
  all_goals rfl

theorem noteInvite_quiet (message : IrcMessage) : Quiet core (core.noteInvite message) := by
  unfold noteInvite
  simp only
  repeat' split
  all_goals rfl

theorem reportInbound_quiet (message : IrcMessage) : Quiet core (core.reportInbound message) :=
  .emit core ⟨rfl, rfl⟩

theorem handleMetadataSyncLater_quiet (message : IrcMessage) :
    Quiet core (core.handleMetadataSyncLater message) := by
  unfold handleMetadataSyncLater
  simp only
  split
  all_goals rfl

theorem answerPing_quiet (message : IrcMessage) : Quiet core (core.answerPing message) := by
  unfold answerPing
  split
  · exact .emit core ⟨rfl, rfl⟩
  · exact core.sendLine_quiet _

theorem packMonitor_quiet (lead : String) (batch nicks : List String) (core : Core) :
    Quiet core (core.packMonitor lead batch nicks).1 := by
  induction nicks generalizing core batch with
  | nil =>
      rw [packMonitor]
      split
      · exact .refl core
      · exact core.sendText_quiet _
  | cons nick rest tail =>
      rw [packMonitor]
      repeat' split
      any_goals exact .refl core
      · rename_i result
        exact (core.sendText_quiet _).of_result result
      · rename_i result _
        exact (core.sendText_quiet _).of_result result
      · rename_i result _
        exact ((core.sendText_quiet _).of_result result).trans (tail _ _)
      · exact tail _ core

theorem sendTyping_quiet (target : String) (phase : TypingPhase) :
    Quiet core (core.sendTyping target phase).1 := by
  unfold sendTyping
  repeat' split
  all_goals rfl

end Core

/-! ## The moves -/

variable [Platform]

/-- One operation on the history requests. An AFTER chain starts only while `unsettled`. -/
inductive HistoryMove (unsettled : Prop) (core : Core) : Core → Prop
  | bumps (channel : String) : HistoryMove unsettled core (core.bumpHistoryGeneration channel)
  | forgets (channel : String) : HistoryMove unsettled core (core.forgetChannelHistory channel)
  | abandons : HistoryMove unsettled core core.abandonHistoryRequests
  | fails (message : IrcMessage) : HistoryMove unsettled core (core.handleChatHistoryFail message)
  | latest (target : String) : HistoryMove unsettled core (core.requestHistoryLatest target).1
  | after (target : String) (after : Instant) (allowed : unsettled) :
      HistoryMove unsettled core (core.requestHistoryAfter target after).1
  | older (target msgid : String) (timestamp : Option Instant) :
      HistoryMove unsettled core (core.requestOlderHistory target msgid timestamp).1
  | targets (start stop : Instant) :
      HistoryMove unsettled core (core.requestHistoryTargets start stop).1

/-- One operation on the read markers. -/
inductive MarkerMove (core : Core) : Core → Prop
  | delivers (message : IrcMessage) : MarkerMove core (core.deliverReadMarker message).1
  | fails (message : IrcMessage) : MarkerMove core (core.handleReadMarkerFail message)
  | queues (target : String) (time : Instant) : MarkerMove core (core.queueReadMarkerSet target time)

/-- One operation that ends labels. -/
inductive LabelMove (core : Core) : Core → Prop
  | finishes (label : String) : LabelMove core (core.finishRequestLabel label)
  | clears : LabelMove core core.clearPendingRequestLabels
  | expires : LabelMove core (core.cancelTimer .label).onLabelTimerFired

/-- One operation on the ledgers, among those that the steps of one connection combine. The
server's features change only while `unsettled`. -/
inductive LineMove (unsettled : Prop) (core : Core) : Core → Prop
  | quiet {changed : Core} (change : Quiet core changed) : LineMove unsettled core changed
  | adopts {changed : Core} (features : IrcServerFeatures) (allowed : unsettled)
      (change : changed.ledgers = { core.ledgers with features }) : LineMove unsettled core changed
  | history {changed : Core} (move : HistoryMove unsettled core changed) :
      LineMove unsettled core changed
  | marker {changed : Core} (move : MarkerMove core changed) : LineMove unsettled core changed
  | label {changed : Core} (move : LabelMove core changed) : LineMove unsettled core changed

/-- Operations on the ledgers, in order. -/
def LineMoves (unsettled : Prop) : Core → Core → Prop :=
  Relation.ReflTransGen (LineMove unsettled)

namespace LineMoves

variable {unsettled : Prop} {core middle changed : Core}

theorem refl (core : Core) : LineMoves unsettled core core := Relation.ReflTransGen.refl

theorem single (move : LineMove unsettled core changed) : LineMoves unsettled core changed :=
  Relation.ReflTransGen.single move

theorem trans (first : LineMoves unsettled core middle)
    (second : LineMoves unsettled middle changed) :
    LineMoves unsettled core changed := Relation.ReflTransGen.trans first second

theorem of_quiet (change : Quiet core changed) : LineMoves unsettled core changed :=
  single (.quiet change)

/-- Moves after a change that touches no ledger. -/
theorem after (second : LineMoves unsettled middle changed) (same : middle.ledgers = core.ledgers) :
    LineMoves unsettled core changed := (of_quiet same).trans second

/-- The core of a result reached by moves, whatever was reported with it. -/
theorem of_result {α : Type} {result : Core × α} {reported : α}
    (change : LineMoves unsettled core result.1) (same : result = (changed, reported)) :
    LineMoves unsettled core changed := by
  rw [same] at change
  exact change

/-- What is allowed stays allowed where more is. -/
theorem widen {wider : Prop} (more : unsettled → wider) (moves : LineMoves unsettled core changed) :
    LineMoves wider core changed := by
  refine Relation.ReflTransGen.mono (fun core changed move => ?_) _ _ moves
  cases move with
  | quiet change => exact .quiet change
  | adopts features allowed change => exact .adopts features (more allowed) change
  | marker move => exact .marker move
  | label move => exact .label move
  | history move =>
      refine .history ?_
      cases move with
      | bumps channel => exact .bumps channel
      | forgets channel => exact .forgets channel
      | abandons => exact .abandons
      | fails message => exact .fails message
      | latest target => exact .latest target
      | after target after allowed => exact .after target after (more allowed)
      | older target msgid timestamp => exact .older target msgid timestamp
      | targets start stop => exact .targets start stop

/-- What every move keeps, moves keep. -/
theorem invariant (Invariant : Ledgers → Prop)
    (kept : ∀ {core changed : Core}, LineMove unsettled core changed → Invariant core.ledgers →
      Invariant changed.ledgers)
    (moves : LineMoves unsettled core changed) (holds : Invariant core.ledgers) :
    Invariant changed.ledgers := by
  induction moves with
  | refl => exact holds
  | tail prior move inductionHypothesis => exact kept move inductionHypothesis

end LineMoves

namespace Core

variable {unsettled : Prop} (core : Core)

/-! ## The handlers -/

theorem fail_moves (kind : ErrorKind) (message : String) (reconnect : Bool) :
    LineMoves unsettled core (core.fail kind message reconnect) := by
  have begun : LineMoves unsettled core core.beginFail := by
    refine LineMoves.trans ?_ (.single (.label .clears))
    exact .of_quiet ((cancelTimer_quiet _ (by decide)).trans (cancelPingWatchdog_quiet _))
  unfold fail
  simp only
  repeat' split
  · exact begun.trans (.of_quiet ((reportRetryable_quiet _ _ _).before rfl))
  · exact begun.trans (.of_quiet ((reportRetryable_quiet _ _ _).trans (scheduleReconnect_quiet _)))
  · refine begun.trans (.of_quiet ?_)
    refine Quiet.before ?_ (setState_quiet _ _)
    exact Quiet.trans ((Quiet.emit _ ⟨rfl, rfl⟩).before rfl) (cancelTimer_quiet _ (by decide))

omit [Platform] in
theorem sendRequest_quiet (request : IrcCapabilityRequest) :
    Quiet core (core.sendRequest request) := by
  unfold sendRequest
  simp only
  split
  · exact .refl core
  · refine Quiet.trans (Quiet.trans ?_ (Quiet.foldl (fun core text => core.sendLine_quiet _) _ _))
      (armTimer_quiet _ (by decide) _)
    split
    · exact .refl core
    · exact core.setState_quiet _

omit [Platform] in
theorem endCapabilityNegotiation_quiet : Quiet core core.endCapabilityNegotiation := by
  unfold endCapabilityNegotiation
  repeat' split
  any_goals exact .refl core
  refine Quiet.trans ?_ (sendLine_quiet _ _)
  exact (cancelTimer_quiet _ (by decide)).after rfl

theorem sendRegistration_moves : LineMoves unsettled core core.sendRegistration := by
  unfold sendRegistration
  simp only
  repeat' split
  · exact .refl core
  · exact core.fail_moves _ _ _
  · rename_i lines built
    have sent : Quiet core (lines.foldl sendLine core) := .foldl sendLine_quiet lines core
    exact .of_quiet ((sent.before rfl).trans (setState_quiet _ _))

theorem requestCapabilities_moves : LineMoves unsettled core core.requestCapabilities := by
  unfold requestCapabilities
  generalize core.caps.takeRequest = round
  refine LineMoves.trans ?_ (.of_quiet (endCapabilityNegotiation_quiet _))
  refine LineMoves.trans ?_ (sendRegistration_moves _)
  exact .of_quiet ((sendRequest_quiet _ _).after rfl)

end Core

end Omairc.Session
