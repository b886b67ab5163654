import Omairc.Controller.System

/-!
# What the steps of the controller leave alone

Most operations change what is shown and what the reducer holds, and nothing of what the
controller keeps beside it. Every step but a mute keeps the mutes, and every step but the
ones about sessions keeps the sessions.
-/

namespace Omairc

open Omairc.Irc Omairc.Irc.Reducer Omairc.Storage Omairc.Text

variable {Log : Type}

namespace Controller

/-- Nothing changed but the reducer and what is shown. -/
structure Shown (before after : Controller Log) : Prop where
  currentNicks : after.currentNicks = before.currentNicks
  networkOrder : after.networkOrder = before.networkOrder
  mutes : after.mutes = before.mutes
  cancelledJoins : after.cancelledJoins = before.cancelledJoins
  sessions : after.sessions = before.sessions
  written : after.written = before.written

/-- The mutes and the sessions are what they were. -/
structure Kept (before after : Controller Log) : Prop where
  mutes : after.mutes = before.mutes
  sessions : after.sessions = before.sessions

variable {before middle after controller : Controller Log}

theorem Shown.refl (controller : Controller Log) : Shown controller controller :=
  ⟨rfl, rfl, rfl, rfl, rfl, rfl⟩

theorem Shown.trans (first : Shown before middle) (second : Shown middle after) :
    Shown before after where
  currentNicks := second.currentNicks.trans first.currentNicks
  networkOrder := second.networkOrder.trans first.networkOrder
  mutes := second.mutes.trans first.mutes
  cancelledJoins := second.cancelledJoins.trans first.cancelledJoins
  sessions := second.sessions.trans first.sessions
  written := second.written.trans first.written

theorem Shown.kept (shown : Shown before after) : Kept before after :=
  ⟨shown.mutes, shown.sessions⟩

theorem Kept.refl (controller : Controller Log) : Kept controller controller := ⟨rfl, rfl⟩

theorem Kept.trans (first : Kept before middle) (second : Kept middle after) :
    Kept before after where
  mutes := second.mutes.trans first.mutes
  sessions := second.sessions.trans first.sessions

/-- What follows a change of other things keeps the same. -/
theorem Kept.onto (second : Kept middle after) (first : Kept before middle) :
    Kept before after := first.trans second

section Shown

theorem onReducer_shown (change : EventReducer (Stored Log) → EventReducer (Stored Log)) :
    Shown controller (controller.onReducer change) := ⟨rfl, rfl, rfl, rfl, rfl, rfl⟩

theorem select_shown (networkId target : String) :
    Shown controller (controller.select networkId target) := by
  unfold select
  split
  · exact .refl _
  · exact ⟨rfl, rfl, rfl, rfl, rfl, rfl⟩

theorem clearSelected_shown : Shown controller controller.clearSelected :=
  ⟨rfl, rfl, rfl, rfl, rfl, rfl⟩

theorem claimFirstConversation_shown : Shown controller controller.claimFirstConversation := by
  unfold claimFirstConversation
  split
  · exact .refl _
  · split
    · exact .refl _
    · exact ⟨rfl, rfl, rfl, rfl, rfl, rfl⟩

theorem markChannelLeft_shown (networkId channel : String) :
    Shown controller (controller.markChannelLeft networkId channel) := by
  unfold markChannelLeft
  split
  · exact .refl _
  · exact onReducer_shown _

section Lists

variable [Platform]

theorem rememberOpenDirect_shown (networkId target : String) :
    Shown controller (controller.rememberOpenDirect networkId target) := by
  unfold rememberOpenDirect
  dsimp only
  split
  · exact .refl _
  · exact onReducer_shown _

theorem keepReopened_shown (reopened : Option (String × String)) :
    Shown controller (controller.keepReopened reopened) := by
  unfold keepReopened
  split
  · exact .refl _
  · split
    · exact rememberOpenDirect_shown ..
    · exact .refl _

theorem noteSelfAuthoredDirect_shown (networkId author target : String) :
    Shown controller (controller.noteSelfAuthoredDirect networkId author target) := by
  unfold noteSelfAuthoredDirect
  split
  · exact .refl _
  · split
    · exact rememberOpenDirect_shown ..
    · exact .refl _

theorem noteKeptReplay_shown : Shown controller controller.noteKeptReplay := by
  unfold noteKeptReplay
  dsimp only
  have folded : ∀ (queries : List RememberedQuery) (current : Controller Log),
      Shown controller current →
      Shown controller (queries.foldl (fun controller query =>
        if (controller.find
            (controller.reducer.conversationKey query.networkId query.target)).isSome then
          controller.rememberOpenDirect query.networkId query.target
        else controller) current) := by
    intro queries
    induction queries with
    | nil => exact fun current shown => shown
    | cons query rest inductionHypothesis =>
        intro current shown
        refine inductionHypothesis _ (shown.trans ?_)
        dsimp only
        split
        · exact rememberOpenDirect_shown ..
        · exact .refl _
  exact folded _ _ ⟨rfl, rfl, rfl, rfl, rfl, rfl⟩

theorem noteLists_shown (event : Event) (reopened : Option (String × String)) :
    Shown controller (controller.noteLists event reopened) := by
  unfold noteLists
  dsimp only
  refine Shown.trans ?_ noteKeptReplay_shown
  refine Shown.trans ?_ (keepReopened_shown reopened)
  split
  on_goal 1 => refine Shown.trans ?_ (noteSelfAuthoredDirect_shown ..)
  all_goals
    split
    · exact ⟨rfl, rfl, rfl, rfl, rfl, rfl⟩
    · exact .refl _

theorem dropAndReselect_shown (key : ConversationKey) :
    Shown controller (controller.dropAndReselect key) := by
  unfold dropAndReselect
  dsimp only
  have dropped : Shown controller (controller.dropRow key) := onReducer_shown _
  split
  · split
    · exact dropped.trans (select_shown ..)
    · exact dropped.trans clearSelected_shown
  · exact dropped

theorem dismissChannel_shown (networkId channel : String) :
    Shown controller (controller.dismissChannel networkId channel).1 := by
  unfold dismissChannel
  dsimp only
  split
  · exact .refl _
  · split
    · exact dropAndReselect_shown _
    · exact .refl _

end Lists

variable [Platform] [CharacterClasses] [TranscriptLog Log]

theorem ensureConversation_shown (networkId target : String) (cause : IrcConversationCause) :
    Shown controller (controller.ensureConversation networkId target cause).1 :=
  ⟨rfl, rfl, rfl, rfl, rfl, rfl⟩

theorem openQuery_shown (networkId nick : String) :
    Shown controller (controller.openQuery networkId nick).1 := by
  unfold openQuery
  dsimp only
  have opened := @ensureConversation_shown _ controller _ _ _ networkId nick .userOpen
  split
  · exact opened.trans ((rememberOpenDirect_shown networkId nick).trans (select_shown ..))
  · exact opened

theorem revealConversation_shown (networkId target : String) :
    Shown controller (controller.revealConversation networkId target) := by
  unfold revealConversation
  dsimp only
  have opened := @ensureConversation_shown _ controller _ _ _ networkId target .userOpen
  split
  · exact .refl _
  · split
    · exact select_shown ..
    · split
      · exact opened.trans ((rememberOpenDirect_shown networkId target).trans (select_shown ..))
      · exact opened

theorem openDirect_shown (nick : String) :
    Shown controller (controller.openDirect nick).1 := by
  unfold openDirect
  split
  · exact .refl _
  · split
    · exact .refl _
    · exact openQuery_shown ..

theorem openJoinedChannel_shown (networkId channel : String) :
    Shown controller (controller.openJoinedChannel networkId channel) := by
  unfold openJoinedChannel
  dsimp only
  have opened : Shown controller ((controller.onReducer fun reducer => reducer.clearClosed
      (controller.reducer.conversationKey networkId channel)).ensureConversation networkId channel
        .channelState).1 := ⟨rfl, rfl, rfl, rfl, rfl, rfl⟩
  split
  · exact .refl _
  · split
    · exact opened.trans (select_shown ..)
    · exact opened

/-- Folding an event in changes the reducer and what is shown. -/
theorem apply_shown (event : Event) (now : Instant) :
    Shown controller (controller.apply event now) := by
  unfold apply
  dsimp only
  have noted := (@onReducer_shown _ controller fun reducer =>
    reducer.apply event now).trans (noteLists_shown event (controller.otherReopenedDirect event))
  refine Shown.trans ?_ (onReducer_shown _)
  split
  · exact noted.trans claimFirstConversation_shown
  · exact noted

theorem restoreOpenDirects_shown (networkId : String) (targets : List String) :
    Shown controller (controller.restoreOpenDirects networkId targets) := by
  unfold restoreOpenDirects
  induction targets generalizing controller with
  | nil => exact .refl _
  | cons target rest inductionHypothesis =>
      rw [List.foldl_cons]
      refine Shown.trans ?_ inductionHypothesis
      split
      · exact .refl _
      · exact ensureConversation_shown ..

theorem endMotd_shown (networkId : String) (targets : Option (List String)) :
    Shown controller (controller.endMotd networkId targets) := by
  unfold endMotd
  dsimp only
  split
  · exact onReducer_shown _
  · exact (onReducer_shown _).trans ((restoreOpenDirects_shown ..).trans
      ((onReducer_shown _).trans noteKeptReplay_shown))

omit [Platform] [TranscriptLog Log] in
theorem applyIsupport_shown (networkId : String) (message : IrcMessage) :
    Shown controller (controller.applyIsupport networkId message) := by
  unfold applyIsupport
  split
  · exact .refl _
  · exact onReducer_shown _

omit [Platform] [CharacterClasses] [TranscriptLog Log] in
theorem dropEmptyDirect_shown (networkId target : String) :
    Shown controller (controller.dropEmptyDirect networkId target) := by
  unfold dropEmptyDirect
  dsimp only
  split
  · exact onReducer_shown _
  · exact .refl _

theorem noteDiscoveredTarget_shown (networkId name : String) (requested : Bool) :
    Shown controller (controller.noteDiscoveredTarget networkId name requested) := by
  unfold noteDiscoveredTarget
  dsimp only
  have opened := @ensureConversation_shown _ controller _ _ _ networkId name .inboundOther
  split
  · exact .refl _
  · split
    · exact opened
    · exact opened.trans (dropEmptyDirect_shown ..)

theorem echoIfPresent_shown (link : Link) (networkId target body : String) (kind : Outgoing)
    (now : Instant) :
    Shown controller (controller.echoIfPresent link networkId target body kind now) := by
  unfold echoIfPresent
  dsimp only
  split
  · exact .refl _
  · split
    · exact .refl _
    · exact apply_shown ..

end Shown

section Kept

variable [Platform] [TranscriptLog Log]

theorem closeKey_kept (key : ConversationKey) : Kept controller (controller.closeKey key).1 := by
  unfold closeKey
  split
  · split
    · exact .refl _
    · exact (dismissChannel_shown ..).kept.onto ⟨rfl, rfl⟩
  · refine Shown.kept (Shown.trans ?_ (dropAndReselect_shown _))
    unfold forgetOpenDirect
    split
    · exact .refl _
    · exact onReducer_shown _

omit [TranscriptLog Log] in
theorem dropCancelledJoin_kept (link : Link) (networkId channel : String) (key : ConversationKey) :
    Kept controller (controller.dropCancelledJoin link networkId channel key) := by
  unfold dropCancelledJoin
  dsimp only
  have landed : ∀ current : Controller Log, Kept current
      (if current.reducer.facts.isClosed key then (current.dismissChannel networkId channel).1
        else current.markChannelLeft networkId channel) := by
    intro current
    split
    · exact (dismissChannel_shown ..).kept
    · exact (markChannelLeft_shown ..).kept
  split
  · exact (landed _).onto ⟨rfl, rfl⟩
  · exact landed _

variable [CharacterClasses]

theorem handleEvent_kept (link : Link) (event : Event) (now : Instant) :
    Kept controller (controller.handleEvent link event now) := by
  have followed : Kept controller (controller.followNick event) := by
    unfold followNick
    split
    · split
      · exact ⟨rfl, rfl⟩
      · exact .refl _
    · exact .refl _
  have applied := followed.trans (apply_shown event now).kept
  unfold handleEvent
  dsimp only
  generalize (controller.followNick event).apply event now = current at applied ⊢
  split
  · exact applied
  · split
    · exact applied.trans ((dropCancelledJoin_kept ..).onto ⟨rfl, rfl⟩)
    · split
      · refine applied.trans ?_
        unfold onSelfJoin
        split
        · exact (select_shown ..).kept
        · exact .refl _
      · exact applied

omit [Platform] [CharacterClasses] in
theorem joinTargets_kept (link : Link) (networkId : String) (targets : List IrcJoinTarget) :
    Kept controller (controller.joinTargets link networkId targets).1 := by
  unfold joinTargets
  have folded : ∀ (targets : List IrcJoinTarget) (current : Controller Log) (sent : Bool),
      Kept controller current →
      Kept controller (targets.foldl (fun state target =>
        ((state.1.joinTarget link networkId target).1,
          (state.1.joinTarget link networkId target).2 && state.2)) (current, sent)).1 := by
    intro targets
    induction targets with
    | nil => exact fun current sent kept => kept
    | cons target rest inductionHypothesis =>
        intro current sent kept
        refine inductionHypothesis _ _ (kept.trans ?_)
        unfold joinTarget
        dsimp only
        split
        · exact ⟨rfl, rfl⟩
        · exact ⟨rfl, rfl⟩
  exact folded targets controller true (.refl _)

theorem dispatchJoin_kept (link : Link) (networkId argument : String) :
    Kept controller (controller.dispatchJoin link networkId argument).1 := by
  unfold dispatchJoin
  split
  · exact .refl _
  · split
    · exact .refl _
    · rename_i targets _
      have joined := @joinTargets_kept _ controller _ link networkId targets
      dsimp only
      split
      · split
        · exact joined.trans (openJoinedChannel_shown ..).kept
        · exact joined
      · exact joined

omit [Platform] [CharacterClasses] [TranscriptLog Log] in
theorem joinChannel_kept (link : Link) (networkId channel : String) :
    Kept controller (controller.joinChannel link networkId channel).1 := by
  unfold joinChannel
  split
  · exact .refl _
  · split
    · exact .refl _
    · split
      · exact (select_shown ..).kept.onto ⟨rfl, rfl⟩
      · exact .refl _

omit [Platform] [CharacterClasses] [TranscriptLog Log] in
theorem dispatchPart_kept (link : Link) (networkId channel : String) :
    Kept controller (controller.dispatchPart link networkId channel).1 := by
  unfold dispatchPart
  split
  · exact .refl _
  · split
    · exact .refl _
    · dsimp only
      split
      · split
        · exact (markChannelLeft_shown ..).kept.onto ⟨rfl, rfl⟩
        · exact .refl _
      · exact ⟨rfl, rfl⟩
      · split
        · exact ⟨rfl, rfl⟩
        · exact .refl _

theorem sendSelected_kept (link : Link) (kind : Outgoing) (text : String) (now : Instant) :
    Kept controller (controller.sendSelected link kind text now).1 := by
  unfold sendSelected
  split
  · exact .refl _
  · split
    · exact .refl _
    · split
      · exact .refl _
      · dsimp only
        split
        · exact (echoIfPresent_shown ..).kept.onto ⟨rfl, rfl⟩
        · exact .refl _

theorem dispatchQuery_kept (link : Link) (networkId nick text : String) (now : Instant) :
    Kept controller (controller.dispatchQuery link networkId nick text now).1 := by
  unfold dispatchQuery
  split
  · exact .refl _
  · split
    · exact .refl _
    · have opened := (@openQuery_shown _ controller _ _ _ networkId nick).kept
      dsimp only
      split
      · exact opened
      · split
        · exact opened
        · exact opened.trans (sendSelected_kept ..)

theorem quietSend_kept (link : Link) (networkId target text : String) (kind : Outgoing)
    (now : Instant) :
    Kept controller (controller.quietSend link networkId target text kind now).1 := by
  unfold quietSend
  split
  · exact .refl _
  · split
    · exact .refl _
    · split
      · dsimp only
        refine (echoIfPresent_shown ..).kept.onto ?_
        refine (ensureConversation_shown ..).kept.onto ?_
        split
        · exact (rememberOpenDirect_shown ..).kept.onto ⟨rfl, rfl⟩
        · exact ⟨rfl, rfl⟩
      · exact .refl _

end Kept

end Controller

end Omairc
