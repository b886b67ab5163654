import Omairc.Session.BatchStages
import Omairc.Session.Ledgers

/-!
# What each class of moves leaves alone

A move of one ledger leaves the others as they are. Two sessions agree beside a ledger
when masking it makes their ledgers equal, so agreement composes as equality does.
-/

namespace Omairc.Session

open Omairc.Text Omairc.Irc

namespace Ledgers

/-- The ledgers without the batches. -/
def besidesBatches (ledgers : Ledgers) : Ledgers := { ledgers with batches := {} }

/-- The ledgers without the history requests. -/
def besidesRequests (ledgers : Ledgers) : Ledgers := { ledgers with history := {} }

/-- The ledgers without the history requests and the delivered batches. -/
def besidesDelivery (ledgers : Ledgers) : Ledgers :=
  { ledgers with history := {}, deliveredBatches := [] }

/-- The ledgers without the history requests and the batches. -/
def besidesHistory (ledgers : Ledgers) : Ledgers :=
  { ledgers with history := {}, batches := {}, deliveredBatches := [] }

/-- The ledgers without the read markers. -/
def besidesMarkers (ledgers : Ledgers) : Ledgers := { ledgers with readMarkers := {} }

/-- The ledgers without the labels. -/
def besidesLabels (ledgers : Ledgers) : Ledgers :=
  { ledgers with
    pendingLabels := {}, nextRequestLabel := 0, labelTimer := none, finishedLabels := [] }

end Ledgers

/-- The ledgers of two sessions agree under a mask. -/
def Agree (mask : Ledgers → Ledgers) (core changed : Core) : Prop :=
  mask changed.ledgers = mask core.ledgers

namespace Agree

variable {mask : Ledgers → Ledgers} {core middle changed : Core}

theorem refl (core : Core) : Agree mask core core := rfl

theorem trans (first : Agree mask core middle) (second : Agree mask middle changed) :
    Agree mask core changed := Eq.trans second first

theorem of_quiet (change : Quiet core changed) : Agree mask core changed := congrArg mask change

/-- Agreement after a change under the mask. -/
theorem after (second : Agree mask middle changed)
    (same : mask middle.ledgers = mask core.ledgers) : Agree mask core changed :=
  Eq.trans second same

/-- A change under the mask after agreement. -/
theorem before (first : Agree mask core middle)
    (same : mask changed.ledgers = mask middle.ledgers) : Agree mask core changed :=
  Eq.trans same first

theorem of_batches (agree : Agree .besidesBatches core changed) :
    Agree .besidesHistory core changed := by
  have masked := congrArg Ledgers.besidesHistory agree
  exact masked

theorem of_requests (agree : Agree .besidesRequests core changed) :
    Agree .besidesDelivery core changed := by
  have masked := congrArg Ledgers.besidesDelivery agree
  exact masked

theorem of_delivery (agree : Agree .besidesDelivery core changed) :
    Agree .besidesHistory core changed := by
  have masked := congrArg Ledgers.besidesHistory agree
  exact masked

theorem history_eq (agree : Agree .besidesBatches core changed) :
    changed.history = core.history := by
  simp only [Agree, Ledgers.besidesBatches, Ledgers.mk.injEq] at agree
  exact agree.2.1

theorem batches_eq (agree : Agree .besidesDelivery core changed) :
    changed.batches = core.batches := by
  simp only [Agree, Ledgers.besidesDelivery, Ledgers.mk.injEq] at agree
  exact agree.1

/-- A fold of agreeing changes agrees. -/
theorem foldl {α : Type} {change : Core → α → Core}
    (each : ∀ core item, Agree mask core (change core item)) (items : List α) (core : Core) :
    Agree mask core (items.foldl change core) := by
  induction items generalizing core with
  | nil => exact refl core
  | cons item rest tail => exact (each core item).trans (tail (change core item))

end Agree

namespace Core

variable (core : Core)

/-! ## History and batches -/

theorem ignoreBatch_agree (reference : String) :
    Agree .besidesBatches core (core.ignoreBatch reference) := by
  unfold ignoreBatch
  simp only
  split_ifs
  all_goals rfl

theorem dropHistoryBatches_agree (channel : String) :
    Agree .besidesBatches core (core.dropHistoryBatches channel) := by
  unfold dropHistoryBatches
  simp only
  split
  · exact .refl core
  · refine Agree.trans ?_ (.foldl ignoreBatch_agree _ _)
    rfl

variable [Platform]

theorem sendHistoryPage_agree (subcommand : String) (kind : HistoryRequestKind) (target : String)
    (cursor : HistoryCursor) :
    Agree .besidesRequests core (core.sendHistoryPage subcommand kind target cursor).1 := by
  unfold sendHistoryPage
  split
  · exact .refl core
  · simp only
    have noted : Agree .besidesRequests core (core.notePending target kind) := rfl
    split
    · rename_i result
      exact noted.trans (.of_quiet ((sendCommand_quiet _ _ _).of_result result))
    · rename_i result
      have refused := noted.trans (.of_quiet ((sendCommand_quiet _ _ _).of_result result))
      exact refused.before rfl

theorem maybeChainHistoryAfter_agree (target : String) (batch : HistoryBatch) (ended : Bool) :
    Agree .besidesRequests core (core.maybeChainHistoryAfter target batch ended) := by
  unfold maybeChainHistoryAfter
  simp only
  split_ifs
  any_goals exact .refl core
  · exact core.sendHistoryPage_agree _ _ _ _
  · refine Agree.trans ?_ (sendHistoryPage_agree _ _ _ _ _)
    rfl
  · exact core.sendHistoryPage_agree _ _ _ _
  · refine Agree.trans ?_ (sendHistoryPage_agree _ _ _ _ _)
    rfl

omit [Platform] in
theorem failHistoryRequest_agree (channels : List String) :
    Agree .besidesRequests core (core.failHistoryRequest channels) := by
  induction channels with
  | nil => exact .refl core
  | cons channel rest inductionHypothesis =>
      rw [failHistoryRequest]
      split
      · exact inductionHypothesis
      · simp only
        have noted : Agree .besidesRequests core
            (if (core.history.pendingKind[core.foldChannel channel]?).getD .latest ≠ .after ∧
                (core.history.pendingKind[core.foldChannel channel]?).getD .latest ≠ .afterTail then
              { core.clearHistoryPending channel with
                history.exhausted := (core.clearHistoryPending channel).history.exhausted.insert
                  (core.foldChannel channel) }
              else core.clearHistoryPending channel) := by
          split
          all_goals rfl
        split
        · refine Agree.trans ?_ (.of_quiet (.emit _ ⟨rfl, rfl⟩))
          exact noted.trans (.of_quiet (.emit _ ⟨rfl, rfl⟩))
        · exact noted.trans (.of_quiet (.emit _ ⟨rfl, rfl⟩))

end Core

variable [Platform] {unsettled : Prop} {core changed : Core}

/-- A move of the history drops the batches of some targets, and otherwise changes only the
requests. -/
theorem HistoryMove.drops (move : HistoryMove unsettled core changed) :
    ∃ (middle : Core) (targets : List String), Agree .besidesRequests core middle ∧
      Agree .besidesRequests (targets.foldl Core.dropHistoryBatches middle) changed := by
  have keeps (agree : Agree .besidesRequests core changed) :
      ∃ (middle : Core) (targets : List String), Agree .besidesRequests core middle ∧
        Agree .besidesRequests (targets.foldl Core.dropHistoryBatches middle) changed :=
    ⟨changed, [], agree, .refl changed⟩
  cases move with
  | bumps channel => exact keeps rfl
  | forgets channel =>
      refine ⟨_, [channel], ?_, .refl (Core.dropHistoryBatches _ channel)⟩
      rfl
  | abandons =>
      unfold Core.abandonHistoryRequests
      simp only
      generalize Std.TreeSet.toList _ = targets
      exact ⟨core, targets, .refl core, rfl⟩
  | fails message =>
      apply keeps
      unfold Core.handleChatHistoryFail
      split_ifs
      · exact .refl core
      · exact .refl core
      · refine Agree.trans ?_ (.of_quiet (.emit _ ⟨rfl, rfl⟩))
        rfl
      · exact core.failHistoryRequest_agree _
  | latest target =>
      apply keeps
      have noted : Agree .besidesRequests core ({ core with
          history.asked := core.history.asked.insert (core.foldChannel target) }.notePending target
            .latest) := rfl
      unfold Core.requestHistoryLatest
      simp only
      split_ifs
      · exact .refl core
      · exact .refl core
      · split
        · rename_i result
          exact noted.trans (.of_quiet ((Core.sendCommand_quiet _ _ _).of_result result))
        · rename_i result
          have refused := noted.trans (.of_quiet ((Core.sendCommand_quiet _ _ _).of_result result))
          exact refused.before rfl
  | after target after =>
      apply keeps
      unfold Core.requestHistoryAfter
      simp only
      split_ifs
      · exact .refl core
      · exact .refl core
      · exact Agree.after (Core.sendHistoryPage_agree _ _ _ _ _) rfl
  | older target msgid timestamp =>
      apply keeps
      unfold Core.requestOlderHistory
      simp only
      split_ifs
      · exact .refl core
      · exact .refl core
      · exact .refl core
      · split
        · exact .refl core
        · split
          · rename_i result
            have sent := (Core.sendCommand_quiet _ _ _).of_result result
            exact Agree.after (.of_quiet sent) rfl
          · rename_i result
            have refused := (Core.sendCommand_quiet _ _ _).of_result result
            exact Agree.before (Agree.after (.of_quiet refused) rfl) rfl
  | targets start stop =>
      apply keeps
      unfold Core.requestHistoryTargets
      simp only
      split_ifs
      · exact .refl core
      · exact .refl core
      · split
        · rename_i result
          have sent := (Core.sendCommand_quiet _ _ _).of_result result
          exact Agree.before (.of_quiet sent) rfl
        · rename_i result
          exact .of_quiet ((Core.sendCommand_quiet _ _ _).of_result result)

/-- A move of the history leaves the other ledgers. -/
theorem HistoryMove.agree (move : HistoryMove unsettled core changed) :
    Agree .besidesHistory core changed := by
  obtain ⟨middle, targets, before, after⟩ := move.drops
  have dropped : Agree .besidesBatches middle (targets.foldl Core.dropHistoryBatches middle) :=
    .foldl Core.dropHistoryBatches_agree targets middle
  exact (before.of_requests.of_delivery.trans dropped.of_batches).trans
    after.of_requests.of_delivery

omit [Platform] in
/-- What a batch collects leaves the other ledgers. -/
theorem Core.captureInBatch_agree (core : Core) (message : IrcMessage) :
    Agree .besidesBatches core (core.captureInBatch message).1 := by
  unfold captureInBatch
  simp only
  repeat' split
  all_goals rfl

/-- Opening a batch leaves the other ledgers. -/
theorem Core.openBatch_agree (core : Core) (message : IrcMessage) (reference : String) :
    Agree .besidesHistory core (core.openBatch message reference) := by
  have ignored := (core.ignoreBatch_agree reference).of_batches
  unfold openBatch
  simp only
  repeat' split
  any_goals exact .refl core
  any_goals exact ignored
  rfl

omit [Platform] in
/-- Reporting a batch leaves the other ledgers. -/
theorem Core.emitBatch_agree (core : Core) (networkId : String) (batch : HistoryBatch) :
    Agree .besidesDelivery core (core.emit (.historyBatchReceived networkId batch)) := by
  simp [Agree, ledgers, emit, Ledgers.besidesDelivery, SessionEvent.finishedLabel]

omit [Platform] in
/-- Answering a request leaves the other ledgers. -/
theorem Core.answeredBy_agree (core : Core) (frame : OpenBatch) :
    Agree .besidesRequests core (core.answeredBy frame) := by
  unfold answeredBy
  simp only
  split_ifs
  all_goals rfl

/-- Continuing a chain leaves the other ledgers. -/
theorem Core.continuedBy_agree (core : Core) (frame : OpenBatch) :
    Agree .besidesRequests core (core.continuedBy frame) := by
  have answered := core.answeredBy_agree frame
  unfold continuedBy
  simp only
  split
  · refine Agree.trans ?_ (maybeChainHistoryAfter_agree _ _ _ _)
    exact answered.before rfl
  · exact answered.before rfl

/-- Delivering a batch leaves the other ledgers. -/
theorem Core.deliverBatch_agree (core : Core) (frame : OpenBatch) :
    Agree .besidesDelivery core (core.deliverBatch frame) := by
  rw [deliverBatch_eq]
  split
  · exact (core.answeredBy_agree frame).of_requests
  · refine Agree.trans ?_ (emitBatch_agree _ _ _)
    split
    · exact (core.continuedBy_agree frame).of_requests
    · exact (core.answeredBy_agree frame).of_requests

omit [Platform] in
/-- Closing the children of a batch leaves the other ledgers. -/
theorem Core.orphanBatches_agree (core : Core) (children : List String) :
    Agree .besidesBatches core (core.orphanBatches children) := by
  refine Agree.foldl (fun core child => ?_) children core
  exact Agree.after (ignoreBatch_agree _ child) rfl

omit [Platform] in
/-- Removing a batch with its children leaves the other ledgers. -/
theorem Core.withoutTree_agree (core : Core) (reference : String) :
    Agree .besidesBatches core (core.withoutTree reference) :=
  Agree.after (orphanBatches_agree _ _) rfl

/-- Closing a batch leaves the other ledgers as they are, or as finishing its label does. -/
theorem Core.closeBatch_agree (core : Core) (reference : String) :
    ∃ tended : Core, Agree .besidesHistory core tended ∧
      ∃ finished : Core, (finished = tended ∨ LabelMove tended finished) ∧
        Agree .besidesHistory finished (core.closeBatch reference) := by
  rw [closeBatch_eq]
  split
  · exact ⟨core, .refl core, core, .inl rfl, rfl⟩
  · split
    · exact ⟨core, .refl core, core, .inl rfl, .refl core⟩
    · rename_i frame found
      refine ⟨core.withoutTree reference, (core.withoutTree_agree reference).of_batches,
        core.removedBatch reference frame, ?_, ?_⟩
      · unfold removedBatch finishBatchLabel
        split
        · exact .inl rfl
        · exact .inr (.finishes _)
      · split
        · refine Agree.trans ?_ (emitBatch_agree _ _ _).of_delivery
          rfl
        · split
          · exact (deliverBatch_agree _ frame).of_delivery
          · exact .refl _

/-! ## Read markers -/

namespace Core

variable (core : Core)

theorem flushReadMarkerSet_agree (folded : String) :
    Agree .besidesMarkers core (core.flushReadMarkerSet folded) := by
  unfold flushReadMarkerSet
  simp only
  split
  · exact .refl core
  · split
    · exact .refl core
    · split
      · rfl
      · split
        · rename_i result
          exact Agree.after (.of_quiet ((sendCommand_quiet _ _ _).of_result result)) rfl
        · rename_i result
          have sent := (sendCommand_quiet _ _ _).of_result result
          exact Agree.before (Agree.after (.of_quiet sent) rfl) rfl

theorem releaseReadMarker_agree (folded : String) :
    Agree .besidesMarkers core (core.releaseReadMarker folded) :=
  Agree.after (flushReadMarkerSet_agree _ folded) rfl

theorem applyReadMarkerEcho_agree (target folded : String) (echoed : Instant) :
    Agree .besidesMarkers core (core.applyReadMarkerEcho target folded echoed) := by
  have advanced : Agree .besidesMarkers core ((core.advanceLastKnown folded echoed).emit
      (.readMarkerReceived core.networkId target (some echoed))) := by
    refine Agree.trans ?_ (.of_quiet (.emit _ ⟨rfl, rfl⟩))
    unfold advanceLastKnown
    split
    all_goals rfl
  unfold applyReadMarkerEcho
  simp only
  revert advanced
  generalize Core.emit _ _ = marked
  intro advanced
  split
  · exact advanced
  · split
    · exact advanced
    · refine advanced.trans (Agree.after (releaseReadMarker_agree _ folded) ?_)
      split
      all_goals rfl

end Core

/-- A move of the read markers leaves the other ledgers. -/
theorem MarkerMove.agree (move : MarkerMove core changed) :
    Agree .besidesMarkers core changed := by
  have told (core : Core) (networkId target : String) : Agree .besidesMarkers core
      (core.emit (.readMarkerReceived networkId target none)) :=
    .of_quiet (.emit core ⟨rfl, rfl⟩)
  cases move with
  | delivers message =>
      unfold Core.deliverReadMarker
      simp only
      split_ifs
      · exact .refl core
      · exact .refl core
      · exact told core _ _
      · split
        · exact (core.releaseReadMarker_agree _).trans (told _ _ _)
        · exact told core _ _
        · exact core.applyReadMarkerEcho_agree _ _ _
  | fails message =>
      unfold Core.handleReadMarkerFail
      simp only
      split_ifs
      · exact .refl core
      · exact (Agree.foldl Core.releaseReadMarker_agree _ core).trans (told _ _ _)
      · exact .refl core
      · exact (core.releaseReadMarker_agree _).trans (told _ _ _)
  | queues target time =>
      unfold Core.queueReadMarkerSet
      simp only
      split_ifs
      any_goals exact .refl core
      exact Agree.after (Core.flushReadMarkerSet_agree _ _) rfl

/-! ## Labels -/

namespace Core

omit [Platform] in
theorem armLabelTimer_agree (core : Core) : Agree .besidesLabels core core.armLabelTimer := by
  unfold armLabelTimer
  split
  all_goals rfl

omit [Platform] in
theorem beginLabeledRequest_agree (core : Core) :
    Agree .besidesLabels core core.beginLabeledRequest.1 :=
  Agree.after (armLabelTimer_agree _) rfl

omit [Platform] in
theorem dropRequestLabel_agree (core : Core) (label : String) :
    Agree .besidesLabels core (core.dropRequestLabel label) := by
  unfold dropRequestLabel
  split
  · exact .refl core
  · exact Agree.after (armLabelTimer_agree _) rfl

omit [Platform] in
/-- Reporting a label as finished adds it to those that were. -/
theorem emitLabel_ledgers (core : Core) (networkId label : String) :
    (core.emit (.requestLabelFinished networkId label)).ledgers =
      { core.ledgers with finishedLabels := core.ledgers.finishedLabels ++ [label] } := by
  simp [ledgers, emit, SessionEvent.finishedLabel, SessionEvent.deliveredBatch]

omit [Platform] in
theorem emitLabel_agree (core : Core) (networkId label : String) :
    Agree .besidesLabels core (core.emit (.requestLabelFinished networkId label)) := by
  rw [Agree, emitLabel_ledgers]
  rfl

omit [Platform] in
theorem emitLabelsFinished_agree (core : Core) (labels : List String) :
    Agree .besidesLabels core (core.emitLabelsFinished labels) :=
  Agree.foldl (fun core label => emitLabel_agree core _ label) labels core

end Core

omit [Platform] in
/-- A move of the labels leaves the other ledgers. -/
theorem LabelMove.agree (move : LabelMove core changed) : Agree .besidesLabels core changed := by
  cases move with
  | finishes label =>
      unfold Core.finishRequestLabel
      split
      · exact .refl core
      · refine Agree.trans ?_ (Core.emitLabel_agree _ _ _)
        exact Agree.after (Core.armLabelTimer_agree _) rfl
  | clears => exact Agree.after (Core.emitLabelsFinished_agree _ _) rfl
  | expires =>
      refine Agree.trans ?_ (Core.armLabelTimer_agree _)
      exact Agree.after (Core.emitLabelsFinished_agree _ _) rfl

omit [Platform] in
/-- Finishing the label of a batch leaves the other ledgers. -/
theorem Core.finishBatchLabel_agree (core : Core) (requestLabel : String) :
    Agree .besidesLabels core (core.finishBatchLabel requestLabel) := by
  unfold finishBatchLabel
  split
  · exact .refl core
  · have finishes : LabelMove core (core.finishRequestLabel requestLabel) := .finishes _
    exact finishes.agree

omit [Platform] in
/-- Removing a batch leaves the requests and the features, and its label changes no batch. -/
theorem Core.removedBatch_frame (core : Core) (reference : String) (frame : OpenBatch) :
    (core.removedBatch reference frame).history = core.history ∧
      (core.removedBatch reference frame).features = core.features ∧
      (core.removedBatch reference frame).batches = (core.withoutTree reference).batches := by
  have tended := core.withoutTree_agree reference
  have finished := (core.withoutTree reference).finishBatchLabel_agree frame.requestLabel
  simp only [Agree, Ledgers.besidesBatches, Ledgers.mk.injEq] at tended
  simp only [Agree, Ledgers.besidesLabels, Ledgers.mk.injEq] at finished
  obtain ⟨-, history, -, -, -, -, -, features, -⟩ := tended
  obtain ⟨batches, kept, -, -, -, -, -, same, -⟩ := finished
  exact ⟨kept.trans history, same.trans features, batches⟩

namespace Core

omit [Platform] in
/-- Reporting labels as finished adds them to those that were. -/
theorem emitLabelsFinished_ledgers (core : Core) (labels : List String) :
    (core.emitLabelsFinished labels).ledgers =
      { core.ledgers with finishedLabels := core.ledgers.finishedLabels ++ labels } := by
  induction labels generalizing core with
  | nil => rw [emitLabelsFinished, List.foldl_nil, List.append_nil]
  | cons label rest inductionHypothesis =>
      rw [emitLabelsFinished, List.foldl_cons, ← emitLabelsFinished, inductionHypothesis,
        emitLabel_ledgers, List.append_assoc, List.singleton_append]

omit [Platform] in
/-- Clearing the labels finishes each of them. -/
theorem clearPendingRequestLabels_ledgers (core : Core) :
    core.clearPendingRequestLabels.ledgers =
      { core.ledgers with
        pendingLabels := {}
        labelTimer := none
        finishedLabels := core.ledgers.finishedLabels ++ core.pendingLabels.keys } := by
  rw [clearPendingRequestLabels, emitLabelsFinished_ledgers]
  simp [ledgers, cancelTimer]

omit [Platform] in
/-- A reset forgets the ledgers of the connection, and ends its labels. -/
theorem resetForConnection_ledgers (core : Core) :
    core.resetForConnection.ledgers =
      { core.clearPendingRequestLabels.ledgers with
        batches := {}
        history := { afterPageCap := core.history.afterPageCap }
        readMarkers := { lastKnown := core.readMarkers.lastKnown }
        features := {} } := by
  let forgotten : Core :=
    { core with
      framer := {}
      batches := {}
      history := { afterPageCap := core.history.afterPageCap }
      historyLimit := Session.historyLimit
      features := {}
      nickname := core.config.nick
      registrationSent := false
      registrationNick := .configured
      sasl := {}
      capabilityNegotiationEnded := false
      capabilityListSeen := false
      pendingSts := none
      pendingInvite := none
      pendingJoinKeys := {}
      channelTypes := "" }
  let disarmed := ((forgotten.cancelTimer .capability).cancelTimer .registration).cancelPingWatchdog
  have quiet : Quiet forgotten disarmed := by
    refine Quiet.trans ?_ (cancelPingWatchdog_quiet _)
    exact (cancelTimer_quiet _ (by decide)).trans (cancelTimer_quiet _ (by decide))
  have cleared : disarmed.clearPendingRequestLabels.ledgers =
      { core.clearPendingRequestLabels.ledgers with
        batches := {}
        history := { afterPageCap := core.history.afterPageCap }
        features := {} } := by
    rw [clearPendingRequestLabels_ledgers, clearPendingRequestLabels_ledgers,
      show disarmed.ledgers = forgotten.ledgers from quiet]
    rfl
  have published := publishCapabilities_quiet
    { disarmed.clearPendingRequestLabels with
      caps := .new (core.config.saslSecret ≠ "")
      readMarkerToken := none
      readMarkers := { lastKnown := core.readMarkers.lastKnown }
      metadata := {}
      typing := {} }
  calc core.resetForConnection.ledgers
      = { disarmed.clearPendingRequestLabels.ledgers with
          readMarkers := { lastKnown := core.readMarkers.lastKnown } } := published
    _ = _ := by rw [cleared]

end Core

end Omairc.Session
