import Omairc.Session.Dispatch
import Omairc.Session.Outbound

/-!
# Frame lemmas of the feature handlers

A peripheral change leaves the lifecycle part of the session and every timer but the
label timer as they are, and queues nothing but writes, and those only while
registered. Every handler of a feature is peripheral; the lifecycle theorems use
nothing else about these handlers.
-/

namespace Omairc.Session

open Omairc.Text Omairc.Irc

/-- What a change of the session queued: the writes of some frames. -/
def queuedWrites (frames : List Bytes) : List Effect := frames.map Effect.write

@[simp] theorem queuedWrites_nil : queuedWrites [] = [] := rfl

@[simp] theorem queuedWrites_append (front back : List Bytes) :
    queuedWrites (front ++ back) = queuedWrites front ++ queuedWrites back := by
  simp [queuedWrites]

/-- A change that no lifecycle decision depends on. The frames it queued satisfy
`Allowed`. -/
structure Peripheral (Allowed : Bytes → Prop) (core changed : Core) : Prop where
  control : changed.toControl = core.toControl
  timers : ∀ slot, slot ≠ .label → changed.timers slot = core.timers slot
  writes : ∃ frames, changed.effects = core.effects ++ queuedWrites frames ∧
    (∀ frame ∈ frames, Allowed frame) ∧ (frames ≠ [] → core.state = .registered)

namespace Peripheral

variable {Allowed : Bytes → Prop} {core middle changed : Core}

/-- A change of the ledgers and the events alone is peripheral. -/
theorem of_eq (control : changed.toControl = core.toControl)
    (timers : changed.timers = core.timers) (effects : changed.effects = core.effects) :
    Peripheral Allowed core changed where
  control := control
  timers := fun _ _ => by rw [timers]
  writes := ⟨[], by simp [effects], by simp, by simp⟩

/-- No change is peripheral. -/
theorem refl (core : Core) : Peripheral Allowed core core := of_eq rfl rfl rfl

/-- Peripheral changes compose. -/
theorem trans (first : Peripheral Allowed core middle) (second : Peripheral Allowed middle changed) :
    Peripheral Allowed core changed where
  control := second.control.trans first.control
  timers := fun slot other => (second.timers slot other).trans (first.timers slot other)
  writes := by
    obtain ⟨front, frontQueued, frontAllowed, frontRegistered⟩ := first.writes
    obtain ⟨back, backQueued, backAllowed, backRegistered⟩ := second.writes
    have state : middle.state = core.state := congrArg Control.state first.control
    refine ⟨front ++ back, by simp [backQueued, frontQueued], ?_, ?_⟩
    · intro frame written
      rcases List.mem_append.mp written with early | late
      · exact frontAllowed frame early
      · exact backAllowed frame late
    · intro some
      by_cases silent : front = []
      · subst silent
        rw [← state]
        exact backRegistered (by simpa using some)
      · exact frontRegistered silent

/-- A peripheral change after one of the ledgers alone. -/
theorem after (second : Peripheral Allowed middle changed)
    (control : middle.toControl = core.toControl) (timers : middle.timers = core.timers)
    (effects : middle.effects = core.effects) : Peripheral Allowed core changed :=
  (of_eq control timers effects).trans second

/-- A change of the ledgers and the events after a peripheral one. -/
theorem before (first : Peripheral Allowed core middle)
    (control : changed.toControl = middle.toControl) (timers : changed.timers = middle.timers)
    (effects : changed.effects = middle.effects) : Peripheral Allowed core changed :=
  first.trans (of_eq control timers effects)

/-- A weaker condition on the frames. -/
theorem mono {Weaker : Bytes → Prop} (weaker : ∀ frame, Allowed frame → Weaker frame)
    (change : Peripheral Allowed core changed) : Peripheral Weaker core changed where
  control := change.control
  timers := change.timers
  writes := by
    obtain ⟨frames, queued, allowed, registered⟩ := change.writes
    exact ⟨frames, queued, fun frame written => weaker frame (allowed frame written), registered⟩

/-- A peripheral change keeps the state. -/
theorem state (change : Peripheral Allowed core changed) : changed.state = core.state :=
  congrArg Control.state change.control

/-- Outside Registered a peripheral change queues nothing. -/
theorem effects_of_unregistered (change : Peripheral Allowed core changed)
    (unregistered : core.state ≠ .registered) : changed.effects = core.effects := by
  obtain ⟨frames, queued, -, registered⟩ := change.writes
  cases frames with
  | nil => simpa using queued
  | cons frame rest => exact absurd (registered (List.cons_ne_nil _ _)) unregistered

/-- A fold of peripheral changes is peripheral. -/
theorem foldl {α : Type} {change : Core → α → Core}
    (each : ∀ core item, Peripheral Allowed core (change core item)) (items : List α)
    (core : Core) : Peripheral Allowed core (items.foldl change core) := by
  induction items generalizing core with
  | nil => exact refl core
  | cons item rest tail => exact (each core item).trans (tail (change core item))

/-- The core of a peripheral result is peripheral, whatever was reported with it. -/
theorem of_result {α : Type} {result : Core × α} {reported : α}
    (change : Peripheral Allowed core result.1) (same : result = (changed, reported)) :
    Peripheral Allowed core changed := by
  rw [same] at change
  exact change

/-- An event for the owner is a peripheral change. -/
theorem emit (core : Core) (event : SessionEvent) : Peripheral Allowed core (core.emit event) :=
  of_eq rfl rfl rfl

end Peripheral

namespace Core

variable (core : Core)

/-- Queueing a line while registered is peripheral. -/
theorem sendLine_peripheral {Allowed : Bytes → Prop} {built : Bytes} (allowed : Allowed built)
    (registered : core.state = .registered) : Peripheral Allowed core (core.sendLine built) := by
  unfold sendLine
  split
  · exact .refl core
  · exact
      { control := rfl
        timers := fun _ _ => rfl
        writes := ⟨[built], rfl, by simpa using allowed, fun _ => registered⟩ }

/-- A command is peripheral, and one frame. -/
theorem sendCommand_peripheral (command : Bytes) (requestLabel : String) :
    Peripheral IsFrame core (core.sendCommand command requestLabel).1 := by
  unfold sendCommand
  split
  · exact .refl core
  · rename_i registered
    split
    · exact .refl core
    · split
      · exact .refl core
      · rename_i built accepted
        exact core.sendLine_peripheral (isFrame_of_line accepted) (not_not.mp registered)

/-- A body is peripheral, and every chunk of it is one frame. -/
theorem sendChunks_peripheral (lead suffix : Bytes) (requestLabel : String) (chunks : List Bytes)
    (core : Core) : Peripheral IsFrame core (core.sendChunks lead suffix requestLabel chunks).1 := by
  induction chunks generalizing core with
  | nil => exact .refl core
  | cons chunk rest tail =>
      have first := core.sendCommand_peripheral (lead ++ chunk ++ suffix) requestLabel
      rw [sendChunks]
      split
      · rename_i sent result
        rw [result] at first
        exact first.trans (tail sent)
      · rename_i refused result
        rw [result] at first
        exact first

theorem sendTrailingBody_peripheral (lead body suffix : Bytes) (requestLabel : String) :
    Peripheral IsFrame core (core.sendTrailingBody lead body suffix requestLabel).1 := by
  unfold sendTrailingBody
  simp only
  split
  · exact .refl core
  · split
    · exact .refl core
    · exact sendChunks_peripheral _ _ _ _ core

/-- The label timer is the one timer a peripheral change may move. -/
theorem armLabelTimer_peripheral : Peripheral IsFrame core core.armLabelTimer := by
  unfold armLabelTimer
  split
  · exact ⟨rfl, fun slot other => Function.update_of_ne other _ _, ⟨[], by simp [cancelTimer], by simp, by simp⟩⟩
  · exact ⟨rfl, fun slot other => Function.update_of_ne other _ _, ⟨[], by simp [armTimer], by simp, by simp⟩⟩

theorem hasLabel_peripheral {labels : StringMap Instant} :
    Peripheral IsFrame core { core with pendingLabels := labels }.armLabelTimer :=
  (armLabelTimer_peripheral _).after rfl rfl rfl

theorem beginLabeledRequest_peripheral :
    Peripheral IsFrame core core.beginLabeledRequest.1 :=
  (armLabelTimer_peripheral _).after rfl rfl rfl

theorem dropRequestLabel_peripheral (label : String) :
    Peripheral IsFrame core (core.dropRequestLabel label) := by
  unfold dropRequestLabel
  split
  · exact .refl core
  · exact core.hasLabel_peripheral

theorem finishRequestLabel_peripheral (label : String) :
    Peripheral IsFrame core (core.finishRequestLabel label) := by
  unfold finishRequestLabel
  split
  · exact .refl core
  · exact core.hasLabel_peripheral.trans (.emit _ _)

theorem emitLabelsFinished_peripheral (labels : List String) :
    Peripheral IsFrame core (core.emitLabelsFinished labels) :=
  .foldl (fun core _ => .emit core _) labels core

theorem clearPendingRequestLabels_peripheral :
    Peripheral IsFrame core core.clearPendingRequestLabels := by
  refine Peripheral.trans ?_ (emitLabelsFinished_peripheral _ _)
  exact ⟨rfl, fun slot other => Function.update_of_ne other _ _, ⟨[], by simp [cancelTimer]⟩⟩

theorem onLabelTimerFired_peripheral : Peripheral IsFrame core core.onLabelTimerFired := by
  refine Peripheral.trans ?_ (armLabelTimer_peripheral _)
  exact (emitLabelsFinished_peripheral _ _).after rfl rfl rfl

/-! ## History and batches -/

theorem ignoreBatch_peripheral (reference : String) :
    Peripheral IsFrame core (core.ignoreBatch reference) := by
  unfold ignoreBatch
  simp only
  repeat' split
  all_goals exact .of_eq rfl rfl rfl

theorem dropHistoryBatches_peripheral (channel : String) :
    Peripheral IsFrame core (core.dropHistoryBatches channel) := by
  unfold dropHistoryBatches
  simp only
  split
  · exact .refl core
  · exact (Peripheral.foldl ignoreBatch_peripheral _ _).after rfl rfl rfl

theorem forgetChannelHistory_peripheral (channel : String) :
    Peripheral IsFrame core (core.forgetChannelHistory channel) :=
  (dropHistoryBatches_peripheral _ _).after rfl rfl rfl

theorem bumpHistoryGeneration_peripheral (channel : String) :
    Peripheral IsFrame core (core.bumpHistoryGeneration channel) := .of_eq rfl rfl rfl

theorem abandonHistoryRequests_peripheral :
    Peripheral IsFrame core core.abandonHistoryRequests :=
  (Peripheral.foldl dropHistoryBatches_peripheral _ core).trans
    (.of_eq rfl rfl rfl)

theorem failHistoryRequest_peripheral (channels : List String) :
    Peripheral IsFrame core (core.failHistoryRequest channels) := by
  induction channels with
  | nil => exact .refl core
  | cons channel rest tail =>
      rw [failHistoryRequest]
      simp only
      repeat' split
      · exact tail
      all_goals exact .of_eq rfl rfl rfl

theorem handleChatHistoryFail_peripheral (message : IrcMessage) :
    Peripheral IsFrame core (core.handleChatHistoryFail message) := by
  unfold handleChatHistoryFail
  repeat' split
  · exact .refl core
  · exact .refl core
  · exact .of_eq rfl rfl rfl
  · exact core.failHistoryRequest_peripheral _

theorem requestHistoryLatest_peripheral (target : String) :
    Peripheral IsFrame core (core.requestHistoryLatest target).1 := by
  unfold requestHistoryLatest
  simp only
  repeat' split
  · exact .refl core
  · exact .refl core
  · rename_i result
    have sent := (sendCommand_peripheral _ _ _).of_result result
    exact sent.after rfl rfl rfl
  · rename_i refused result
    have change : Peripheral IsFrame core refused :=
      ((sendCommand_peripheral _ _ _).of_result result).after rfl rfl rfl
    exact change.before rfl rfl rfl

theorem orphanBatches_peripheral (children : List String) :
    Peripheral IsFrame core (core.orphanBatches children) := by
  refine Peripheral.foldl (fun core child => ?_) children core
  exact (ignoreBatch_peripheral _ child).after rfl rfl rfl

theorem finishBatchLabel_peripheral (requestLabel : String) :
    Peripheral IsFrame core (core.finishBatchLabel requestLabel) := by
  unfold finishBatchLabel
  split
  · exact .refl core
  · exact core.finishRequestLabel_peripheral requestLabel

theorem captureInBatch_peripheral (message : IrcMessage) :
    Peripheral IsFrame core (core.captureInBatch message).1 := by
  unfold captureInBatch
  simp only
  repeat' split
  all_goals exact .of_eq rfl rfl rfl

/-! ## Autojoin, metadata and private messages -/

theorem requestReadMarkerGet_peripheral (target : String) :
    Peripheral IsFrame core (core.requestReadMarkerGet target).1 := by
  unfold requestReadMarkerGet
  split
  · exact .refl core
  · exact sendCommand_peripheral _ _ _

theorem recordAutojoin_peripheral (channel : String) (joined : Bool) :
    Peripheral IsFrame core (core.recordAutojoin channel joined) := by
  unfold recordAutojoin recordJoin recordLeave
  simp only
  repeat' split
  all_goals exact .of_eq rfl rfl rfl

theorem dropStoredAutojoinKey_peripheral (channel : String) :
    Peripheral IsFrame core (core.dropStoredAutojoinKey channel) := by
  unfold dropStoredAutojoinKey
  simp only
  repeat' split
  all_goals exact .of_eq rfl rfl rfl

theorem joinLocked_peripheral (target : IrcJoinTarget) :
    Peripheral IsFrame core (core.joinLocked target).1 := by
  unfold joinLocked
  simp only
  split
  · exact .refl core
  · rename_i registered
    split
    · exact .refl core
    · rename_i built accepted
      obtain ⟨command, isLine⟩ : ∃ command, line command core.features = .ok built := by
        unfold join at accepted
        split_ifs at accepted
        · exact ⟨_, accepted⟩
        · exact ⟨_, accepted⟩
      have frame := isFrame_of_line isLine
      have registered := not_not.mp registered
      split
      · refine Peripheral.after (sendLine_peripheral _ frame ?_) rfl rfl rfl
        exact registered
      · exact sendLine_peripheral _ frame registered

theorem setOwnMetadata_peripheral (key value : String) :
    Peripheral IsFrame core (core.setOwnMetadata key value).1 := by
  unfold setOwnMetadata
  simp only
  repeat' split
  any_goals exact .refl core
  all_goals
    rename_i result
    exact (sendCommand_peripheral _ _ _).of_result result

theorem sendPrivmsgLocked_peripheral (target body : String) :
    Peripheral IsFrame core (core.sendPrivmsgLocked target body).1 := by
  unfold sendPrivmsgLocked
  repeat' split
  · exact .refl core
  · rename_i result
    exact ((sendTrailingBody_peripheral _ _ _ _ _).of_result result).before rfl rfl rfl
  · rename_i result
    exact (sendTrailingBody_peripheral _ _ _ _ _).of_result result

theorem sendAction_peripheral (target body : String) :
    Peripheral IsFrame core (core.sendAction target body).1 := by
  unfold sendAction
  repeat' split
  · exact .refl core
  · rename_i result
    exact ((sendTrailingBody_peripheral _ _ _ _ _).of_result result).before rfl rfl rfl
  · rename_i result
    exact (sendTrailingBody_peripheral _ _ _ _ _).of_result result

theorem probeChannelAway_peripheral (channel : String) :
    Peripheral IsFrame core (core.probeChannelAway channel) := by
  unfold probeChannelAway
  split
  · exact .refl core
  · exact sendCommand_peripheral _ _ _

variable [Platform]

theorem sendHistoryPage_peripheral (subcommand : String) (kind : HistoryRequestKind)
    (target : String) (cursor : HistoryCursor) :
    Peripheral IsFrame core (core.sendHistoryPage subcommand kind target cursor).1 := by
  unfold sendHistoryPage
  split
  · exact .refl core
  · simp only
    split
    · rename_i result
      have sent := (sendCommand_peripheral _ _ _).of_result result
      exact sent.after rfl rfl rfl
    · rename_i refused result
      have change : Peripheral IsFrame core refused :=
        ((sendCommand_peripheral _ _ _).of_result result).after rfl rfl rfl
      exact change.before rfl rfl rfl

theorem maybeChainHistoryAfter_peripheral (target : String) (batch : HistoryBatch)
    (historyEnded : Bool) :
    Peripheral IsFrame core (core.maybeChainHistoryAfter target batch historyEnded) := by
  unfold maybeChainHistoryAfter
  simp only
  repeat' split
  any_goals exact .refl core
  any_goals exact sendHistoryPage_peripheral core _ _ _ _
  all_goals exact (sendHistoryPage_peripheral _ _ _ _ _).after rfl rfl rfl

theorem requestHistoryAfter_peripheral (target : String) (after : Instant) :
    Peripheral IsFrame core (core.requestHistoryAfter target after).1 := by
  unfold requestHistoryAfter
  simp only
  repeat' split
  · exact .refl core
  · exact .refl core
  · exact (sendHistoryPage_peripheral _ _ _ _ _).after rfl rfl rfl

theorem requestChannelHistory_peripheral (channel : String) :
    Peripheral IsFrame core (core.requestChannelHistory channel) := by
  unfold requestChannelHistory
  repeat' split
  · exact .refl core
  · exact .refl core
  · rename_i result
    exact (requestHistoryAfter_peripheral _ _ _).of_result result
  · rename_i result
    exact ((requestHistoryAfter_peripheral _ _ _).of_result result).trans
      (requestHistoryLatest_peripheral _ _)
  · exact requestHistoryLatest_peripheral _ _

theorem requestHistoryTargets_peripheral (start stop : Instant) :
    Peripheral IsFrame core (core.requestHistoryTargets start stop).1 := by
  unfold requestHistoryTargets
  simp only
  repeat' split
  · exact .refl core
  · exact .refl core
  · rename_i result
    exact ((sendCommand_peripheral _ _ _).of_result result).before rfl rfl rfl
  · rename_i result
    exact (sendCommand_peripheral _ _ _).of_result result

theorem requestOlderHistory_peripheral (target msgid : String) (timestamp : Option Instant) :
    Peripheral IsFrame core (core.requestOlderHistory target msgid timestamp).1 := by
  unfold requestOlderHistory
  simp only
  repeat' split
  any_goals exact .refl core
  · rename_i result
    have sent := (sendCommand_peripheral _ _ _).of_result result
    exact sent.after rfl rfl rfl
  · rename_i refused result
    have change : Peripheral IsFrame core refused :=
      ((sendCommand_peripheral _ _ _).of_result result).after rfl rfl rfl
    exact change.before rfl rfl rfl

theorem deliverBatch_peripheral (frame : OpenBatch) :
    Peripheral IsFrame core (core.deliverBatch frame) := by
  unfold deliverBatch
  simp only
  repeat' split
  any_goals exact .of_eq rfl rfl rfl
  all_goals
    refine Peripheral.trans ?_ (.emit _ _)
    exact (maybeChainHistoryAfter_peripheral _ _ _ _).after rfl rfl rfl

theorem closeBatch_peripheral (reference : String) :
    Peripheral IsFrame core (core.closeBatch reference) := by
  unfold closeBatch
  split
  · exact .of_eq rfl rfl rfl
  · split
    · exact .refl core
    · rename_i frame found
      simp only
      have finished (children : List String) : Peripheral IsFrame core
          (({ core with batches.openBatches := core.batches.openBatches.erase reference
            }.orphanBatches children).finishBatchLabel frame.requestLabel) := by
        refine Peripheral.trans ?_ (finishBatchLabel_peripheral _ _)
        exact (orphanBatches_peripheral _ children).after rfl rfl rfl
      repeat' split
      · exact (finished _).before rfl rfl rfl
      · exact (finished _).trans (deliverBatch_peripheral _ _)
      · exact finished _

theorem openBatch_peripheral (message : IrcMessage) (reference : String) :
    Peripheral IsFrame core (core.openBatch message reference) := by
  unfold openBatch
  simp only
  repeat' split
  any_goals exact .refl core
  any_goals exact core.ignoreBatch_peripheral reference
  any_goals exact (core.ignoreBatch_peripheral reference).before rfl rfl rfl
  exact .of_eq rfl rfl rfl

theorem handleBatch_peripheral (message : IrcMessage) :
    Peripheral IsFrame core (core.handleBatch message) := by
  unfold handleBatch
  split
  · exact .refl core
  · exact core.closeBatch_peripheral _
  · exact core.openBatch_peripheral _ _

/-! ## Read markers and CTCP -/

theorem flushReadMarkerSet_peripheral (folded : String) :
    Peripheral IsFrame core (core.flushReadMarkerSet folded) := by
  unfold flushReadMarkerSet
  simp only
  repeat' split
  any_goals exact .of_eq rfl rfl rfl
  · rename_i result
    exact ((sendCommand_peripheral _ _ _).of_result result).after rfl rfl rfl
  · rename_i sent result
    have change : Peripheral IsFrame core sent :=
      ((sendCommand_peripheral _ _ _).of_result result).after rfl rfl rfl
    exact change.before rfl rfl rfl

theorem releaseReadMarker_peripheral (folded : String) :
    Peripheral IsFrame core (core.releaseReadMarker folded) :=
  (flushReadMarkerSet_peripheral _ folded).after rfl rfl rfl

theorem applyReadMarkerEcho_peripheral (target folded : String) (echoed : Instant) :
    Peripheral IsFrame core (core.applyReadMarkerEcho target folded echoed) := by
  have advanced : Peripheral IsFrame core (core.advanceLastKnown folded echoed) := by
    unfold advanceLastKnown
    split
    all_goals exact .of_eq rfl rfl rfl
  have reported := advanced.trans
    (.emit _ (.readMarkerReceived core.networkId target (some echoed)))
  unfold applyReadMarkerEcho
  simp only
  repeat' split
  any_goals exact reported
  · exact reported.trans ((releaseReadMarker_peripheral _ _).after rfl rfl rfl)
  · exact reported.trans (releaseReadMarker_peripheral _ _)

theorem deliverReadMarker_peripheral (message : IrcMessage) :
    Peripheral IsFrame core (core.deliverReadMarker message).1 := by
  unfold deliverReadMarker
  simp only
  repeat' split
  any_goals exact .of_eq rfl rfl rfl
  · exact (releaseReadMarker_peripheral _ _).trans (.emit _ _)
  · exact applyReadMarkerEcho_peripheral _ _ _ _

theorem handleReadMarkerFail_peripheral (message : IrcMessage) :
    Peripheral IsFrame core (core.handleReadMarkerFail message) := by
  unfold handleReadMarkerFail
  simp only
  repeat' split
  any_goals exact .refl core
  · exact (Peripheral.foldl (fun core => core.releaseReadMarker_peripheral) _ core).trans (.emit _ _)
  · exact (releaseReadMarker_peripheral _ _).trans (.emit _ _)

theorem queueReadMarkerSet_peripheral (target : String) (time : Instant) :
    Peripheral IsFrame core (core.queueReadMarkerSet target time) := by
  unfold queueReadMarkerSet
  simp only
  repeat' split
  any_goals exact .refl core
  exact (flushReadMarkerSet_peripheral _ _).after rfl rfl rfl

theorem answerCtcp_peripheral (message : IrcMessage) :
    Peripheral IsFrame core (core.answerCtcp message).1 := by
  have allowed (sender : String) : Peripheral IsFrame core (core.allowCtcpReply sender).1 := by
    unfold allowCtcpReply
    simp only
    split
    all_goals exact .of_eq rfl rfl rfl
  unfold answerCtcp
  simp only
  repeat' split
  any_goals exact .refl core
  · rename_i result
    exact (allowed _).of_result result
  · rename_i result
    exact ((allowed _).of_result result).trans (sendTrailingBody_peripheral _ _ _ _ _)

theorem sendCtcp_peripheral (target command argument requestLabel : String) :
    Peripheral IsFrame core (core.sendCtcp target command argument requestLabel).1 := by
  unfold sendCtcp
  simp only
  split
  · exact .refl core
  · exact sendTrailingBody_peripheral _ _ _ _ _

/-! ## Inbound messages -/

omit [Platform] in
theorem applyIsupport_peripheral (message : IrcMessage) :
    Peripheral IsFrame core (core.applyIsupport message) := by
  unfold applyIsupport
  split
  · exact .refl core
  · refine Peripheral.foldl (fun core token => ?_) _ core
    unfold applyIsupportToken
    simp only
    repeat' split
    all_goals exact .of_eq rfl rfl rfl

omit [Platform] in
/-- The bookkeeping before a message is routed is peripheral. -/
theorem prepareMessage_peripheral (message : IrcMessage) :
    Peripheral IsFrame core (core.prepareMessage message) := by
  have invited : Peripheral IsFrame core (core.noteInvite message) := by
    unfold noteInvite
    simp only
    repeat' split
    all_goals exact .of_eq rfl rfl rfl
  have reported : Peripheral IsFrame core ((core.noteInvite message).reportInbound message) :=
    invited.before rfl rfl rfl
  have featured := reported.trans (applyIsupport_peripheral _ message)
  unfold prepareMessage noteWelcomeEnd
  split
  · exact featured.before rfl rfl rfl
  · exact featured

omit [Platform] in
theorem noteNickChange_peripheral (message : IrcMessage) :
    Peripheral IsFrame core (core.noteNickChange message) := by
  unfold noteNickChange
  simp only
  split
  all_goals exact .of_eq rfl rfl rfl

theorem noteSelfJoin_peripheral (channel : String) :
    Peripheral IsFrame core (core.noteSelfJoin channel) := by
  have recorded := ((core.bumpHistoryGeneration_peripheral channel).trans
    (requestChannelHistory_peripheral _ channel)).trans (recordAutojoin_peripheral _ channel true)
  unfold noteSelfJoin
  simp only
  repeat' split
  · exact recorded.before rfl rfl rfl
  · exact recorded
  · exact recorded

omit [Platform] in
theorem noteSelfLeave_peripheral (channel : String) :
    Peripheral IsFrame core (core.noteSelfLeave channel) :=
  ((core.bumpHistoryGeneration_peripheral channel).trans
    (forgetChannelHistory_peripheral _ channel)).trans (recordAutojoin_peripheral _ channel false)

theorem noteMembership_peripheral (message : IrcMessage) (selfPrefixed : Bool) :
    Peripheral IsFrame core (core.noteMembership message selfPrefixed) := by
  unfold noteMembership
  simp only
  repeat' split
  any_goals exact .refl core
  · exact core.noteSelfJoin_peripheral _
  · exact core.noteSelfLeave_peripheral _
  · exact core.noteSelfLeave_peripheral _
  · exact core.dropStoredAutojoinKey_peripheral _

omit [Platform] in
theorem emitMessageReceived_peripheral (message : IrcMessage) :
    Peripheral IsFrame core (core.emitMessageReceived message) := .of_eq rfl rfl rfl

/-- A message that no protocol handler consumed is delivered peripherally. -/
theorem deliverMessage_peripheral (message : IrcMessage) :
    Peripheral IsFrame core (core.deliverMessage message) := by
  have renamed := core.noteNickChange_peripheral message
  have failed : Peripheral IsFrame core
      (if message.command = "FAIL" then
        ((core.noteNickChange message).handleChatHistoryFail message).handleReadMarkerFail message
      else core.noteNickChange message) := by
    split
    · exact (renamed.trans (handleChatHistoryFail_peripheral _ message)).trans
        (handleReadMarkerFail_peripheral _ message)
    · exact renamed
  unfold deliverMessage
  simp only
  refine Peripheral.trans ?_ (finishRequestLabel_peripheral _ _)
  refine Peripheral.trans ?_ (noteMembership_peripheral _ _ _)
  refine Peripheral.trans ?_ (emitMessageReceived_peripheral _ message)
  split
  · exact failed.trans (probeChannelAway_peripheral _ _)
  · exact failed

theorem consumeCtcp_peripheral (message : IrcMessage) :
    Peripheral IsFrame core (core.consumeCtcp message).1 := by
  unfold consumeCtcp
  split
  · exact core.answerCtcp_peripheral message
  · exact .refl core

omit [Platform] in
theorem handleMetadataSyncLater_peripheral (message : IrcMessage) :
    Peripheral IsFrame core (core.handleMetadataSyncLater message) := by
  unfold handleMetadataSyncLater
  simp only
  split
  all_goals exact .of_eq rfl rfl rfl

/-! ## The public senders -/

omit [Platform] in
theorem sendText_peripheral (command : String) :
    Peripheral IsFrame core (core.sendText command).1 := core.sendCommand_peripheral _ _

omit [Platform] in
theorem kick_peripheral (channel nick reason : String) :
    Peripheral IsFrame core (core.kick channel nick reason).1 := by
  unfold kick
  split
  · exact .refl core
  · exact core.sendText_peripheral _

omit [Platform] in
theorem kickban_peripheral (channel mask nick reason : String) :
    Peripheral IsFrame core (core.kickban channel mask nick reason).1 := by
  unfold kickban
  repeat' split
  · exact .refl core
  · rename_i result
    exact ((core.sendText_peripheral _).of_result result).trans (kick_peripheral _ _ _ _)
  · rename_i result
    exact (core.sendText_peripheral _).of_result result

omit [Platform] in
theorem packMonitor_peripheral (lead : String) (batch nicks : List String) (core : Core) :
    Peripheral IsFrame core (core.packMonitor lead batch nicks).1 := by
  induction nicks generalizing core batch with
  | nil =>
      rw [packMonitor]
      split
      · exact .refl core
      · exact core.sendText_peripheral _
  | cons nick rest tail =>
      rw [packMonitor]
      repeat' split
      any_goals exact .refl core
      · rename_i result
        exact (core.sendText_peripheral _).of_result result
      · rename_i result _
        exact (core.sendText_peripheral _).of_result result
      · rename_i result _
        exact ((core.sendText_peripheral _).of_result result).trans (tail _ _)
      · exact tail _ core

omit [Platform] in
theorem sendMonitorLocked_peripheral (modifier : Char) (nicks : List String) :
    Peripheral IsFrame core (core.sendMonitorLocked modifier nicks).1 := by
  unfold sendMonitorLocked
  simp only
  repeat' split
  any_goals exact .refl core
  · exact core.sendText_peripheral _
  · exact packMonitor_peripheral _ _ _ core

omit [Platform] in
/-- The one sender whose line is not built by the line builder. -/
theorem sendTyping_peripheral {Allowed : Bytes → Prop} (target : String) (phase : TypingPhase)
    (allowed : ∀ built, typingTagmsg target phase = some built → Allowed built) :
    Peripheral Allowed core (core.sendTyping target phase).1 := by
  unfold sendTyping
  split
  · exact .refl core
  · rename_i registered
    repeat' split
    any_goals exact .refl core
    rename_i built accepted
    exact ⟨rfl, fun _ _ => rfl, [built], rfl, by simpa using allowed built accepted,
      fun _ => not_not.mp registered⟩

/-- Every sender but the typing one is peripheral and writes frames. -/
theorem send_peripheral_of_ne_typing {operation : SendOperation}
    (other : ∀ target phase, operation ≠ .typing target phase) :
    Peripheral IsFrame core (core.send operation).1 := by
  cases operation with
  | typing target phase => exact absurd rfl (other target phase)
  | privmsg target body => exact core.sendPrivmsgLocked_peripheral target body
  | notice target body =>
      simp only [send, sendNotice]
      split
      · exact .refl core
      · exact core.sendTrailingBody_peripheral _ _ _ _
  | action target body => exact core.sendAction_peripheral target body
  | ctcp target command argument requestLabel => exact core.sendCtcp_peripheral _ _ _ _
  | channelMode request => exact core.sendText_peripheral _
  | join target => exact core.joinLocked_peripheral target
  | kick channel nick reason => exact core.kick_peripheral _ _ _
  | kickban channel mask nick reason => exact core.kickban_peripheral _ _ _ _
  | clearOwnMetadata key => exact core.setOwnMetadata_peripheral key ""
  | monitor modifier nicks => exact core.sendMonitorLocked_peripheral modifier nicks
  | raw line => exact core.sendText_peripheral line
  | olderHistory target msgid timestamp => exact core.requestOlderHistory_peripheral _ _ _
  | historyAfter target after => exact core.requestHistoryAfter_peripheral target after
  | historyLatest target => exact core.requestHistoryLatest_peripheral target
  | historyTargets start stop => exact core.requestHistoryTargets_peripheral start stop
  | readMarkerGet target => exact core.requestReadMarkerGet_peripheral target
  | _ =>
      simp only [send, setAwayLocked, markAway, listChannels, sendWhois]
      repeat' split
      all_goals first
        | exact .refl core
        | exact core.sendText_peripheral _
        | exact core.sendCommand_peripheral _ _

/-- Every sender is peripheral. -/
theorem send_peripheral (operation : SendOperation) :
    Peripheral (fun _ => True) core (core.send operation).1 := by
  by_cases typed : ∃ target phase, operation = .typing target phase
  · obtain ⟨target, phase, rfl⟩ := typed
    exact core.sendTyping_peripheral target phase fun _ _ => trivial
  · refine Peripheral.mono (fun _ _ => trivial) (core.send_peripheral_of_ne_typing ?_)
    intro target phase same
    exact typed ⟨target, phase, same⟩

end Core

end Omairc.Session
