import Omairc.Controller.Frames

/-!
# The steps of the controller as chains of moves

What a step of the controller does to the reducer is a chain of moves, as long as what is
filed there is addressed by its target. Each operation is taken apart once.
-/

namespace Omairc

open Omairc.Irc Omairc.Irc.Reducer Omairc.Storage Omairc.Text

variable {Log : Type}

namespace Controller

section Paths

variable [Platform] [CharacterClasses] [TranscriptLog Log] {hosts : String → Prop}
  {permits : Reducer.Act → Prop}

/-- Between two controllers, the reducer went through a chain of moves. -/
structure Path (hosts : String → Prop) (permits : Reducer.Act → Prop) (before after : Controller Log) :
    Prop where
  chain : Addressed before.reducer → Hosted hosts before.reducer →
    Chain (naming hosts permits) before.reducer after.reducer

/-- The acts of an ordinary step: the selection may move, and no network is forgotten or
changes its features. -/
structure Ordinary (permits : Reducer.Act → Prop) : Prop where
  settled : Settled permits
  keeps : ∀ networkId, ¬permits (.forgets networkId)
  selects : ∀ selected, permits (.selects selected)

namespace Path

variable {before middle after : Controller Log}

theorem of_chain
    (chain : Chain (naming hosts permits) before.reducer after.reducer) :
    Path hosts permits before after :=
  ⟨fun _ _ => chain⟩

theorem of_eq (same : after.reducer = before.reducer) : Path hosts permits before after := by
  refine of_chain ?_
  rw [same]

theorem refl (controller : Controller Log) : Path hosts permits controller controller :=
  of_eq rfl

theorem trans (ordinary : Ordinary permits) (first : Path hosts permits before middle)
    (second : Path hosts permits middle after) : Path hosts permits before after := by
  refine ⟨fun addressed hosted => ?_⟩
  have chain := first.chain addressed hosted
  exact Relation.ReflTransGen.trans chain
    (second.chain (addressed.chain ordinary.settled chain) (hosted.chain chain))

/-- A path begins at every controller with the same reducer. -/
theorem since (path : Path hosts permits middle after) (same : middle.reducer = before.reducer) :
    Path hosts permits before after := by
  refine ⟨fun addressed hosted => ?_⟩
  rw [← same] at addressed hosted ⊢
  exact path.chain addressed hosted

end Path

variable {controller : Controller Log}

/-- A framed change of the facts. -/
theorem facts_path {after : Controller Log}
    (framed : Framed controller.reducer.facts after.reducer.facts)
    (same : after.reducer.conversations = controller.reducer.conversations) :
    Path hosts permits controller after := by
  have whole : after.reducer = { controller.reducer with facts := after.reducer.facts } := by
    show after.reducer = ⟨controller.reducer.conversations, after.reducer.facts⟩
    rw [← same]
  refine .of_chain ?_
  rw [whole]
  exact facts_chain framed

section Lists

theorem onClosed_path (change : CaseListStore → CaseListStore) :
    Path hosts permits controller (controller.onClosed change) :=
  facts_path ⟨rfl, rfl, rfl, fun _ _ => id⟩ rfl

theorem rememberOpenDirect_path (networkId target : String) :
    Path hosts permits controller (controller.rememberOpenDirect networkId target) := by
  unfold rememberOpenDirect
  dsimp only
  split
  · exact .refl _
  · exact onClosed_path _

theorem forgetOpenDirect_path (networkId target : String) :
    Path hosts permits controller (controller.forgetOpenDirect networkId target) := by
  unfold forgetOpenDirect
  split
  · exact .refl _
  · exact onClosed_path _

theorem noteSelfAuthoredDirect_path (networkId author target : String) :
    Path hosts permits controller (controller.noteSelfAuthoredDirect networkId author target) := by
  unfold noteSelfAuthoredDirect
  split
  · exact .refl _
  · split
    · exact rememberOpenDirect_path ..
    · exact .refl _

theorem keepReopened_path (reopened : Option (String × String)) :
    Path hosts permits controller (controller.keepReopened reopened) := by
  unfold keepReopened
  split
  · exact .refl _
  · split
    · exact rememberOpenDirect_path ..
    · exact .refl _

theorem noteKeptReplay_path (ordinary : Ordinary permits) :
    Path hosts permits controller controller.noteKeptReplay := by
  unfold noteKeptReplay
  dsimp only
  have taken : Path hosts permits controller
      { controller with reducer := controller.reducer.takeKeptReplay.1.takeRememberedQueries.1 } :=
    facts_path ⟨rfl, rfl, rfl, fun _ _ => id⟩ rfl
  refine taken.trans ordinary ?_
  generalize ({ controller with
    reducer := controller.reducer.takeKeptReplay.1.takeRememberedQueries.1 } : Controller Log) = start
  generalize controller.reducer.takeKeptReplay.1.takeRememberedQueries.2 = queries
  induction queries generalizing start with
  | nil => exact .refl _
  | cons query rest inductionHypothesis =>
      rw [List.foldl_cons]
      refine Path.trans ordinary ?_ (inductionHypothesis _)
      split
      · exact rememberOpenDirect_path ..
      · exact .refl _

theorem noteLists_path (ordinary : Ordinary permits) (event : Event)
    (reopened : Option (String × String)) :
    Path hosts permits controller (controller.noteLists event reopened) := by
  unfold noteLists
  dsimp only
  refine Path.trans ordinary ?_ (noteKeptReplay_path ordinary)
  refine Path.trans ordinary ?_ (keepReopened_path reopened)
  split
  on_goal 1 => refine Path.trans ordinary ?_ (noteSelfAuthoredDirect_path ..)
  all_goals
    split
    · exact onClosed_path _
    · exact .refl _

end Lists

section Selection

theorem select_path (ordinary : Ordinary permits) (networkId target : String) :
    Path hosts permits controller (controller.select networkId target) := by
  unfold select
  split
  · exact .refl _
  · refine .of_chain (Relation.ReflTransGen.trans ?_ (markSelected_chain (ordinary.selects _)))
    split
    · split
      · exact modify_chain fun conv _ => capTail_touches _ false
      · exact .refl
    · exact .refl

theorem clearSelected_path (ordinary : Ordinary permits) :
    Path hosts permits controller controller.clearSelected :=
  .of_chain (.single (.select none (ordinary.selects none)))

theorem ensureConversation_path {networkId : String} (hosting : hosts networkId) (target : String)
    (cause : IrcConversationCause) :
    Path hosts permits controller (controller.ensureConversation networkId target cause).1 :=
  .of_chain (@ensureKey_chain _ _ _ _ (naming hosts permits) _ _ _ ⟨rfl, hosting⟩ cause)

theorem openQuery_path (ordinary : Ordinary permits) {networkId : String}
    (hosting : hosts networkId) (nick : String) :
    Path hosts permits controller (controller.openQuery networkId nick).1 := by
  unfold openQuery
  dsimp only
  have opened := @ensureConversation_path _ _ _ _ _ permits controller _ hosting
    nick .userOpen
  split
  · exact opened.trans ordinary
      ((rememberOpenDirect_path networkId nick).trans ordinary (select_path ordinary networkId nick))
  · exact opened

theorem revealConversation_path (ordinary : Ordinary permits) {networkId : String}
    (hosting : hosts networkId) (target : String) :
    Path hosts permits controller (controller.revealConversation networkId target) := by
  unfold revealConversation
  dsimp only
  have opened := @ensureConversation_path _ _ _ _ _ permits controller _ hosting
    target .userOpen
  split
  · exact .refl _
  · split
    · exact select_path ordinary ..
    · split
      · exact opened.trans ordinary ((rememberOpenDirect_path networkId target).trans ordinary
          (select_path ordinary networkId target))
      · exact opened

theorem openDirect_path (ordinary : Ordinary permits)
    (hosting : ∀ key, controller.selected = some key → hosts key.networkId) (nick : String) :
    Path hosts permits controller (controller.openDirect nick).1 := by
  unfold openDirect
  split
  · exact .refl _
  · rename_i key selected
    split
    · exact .refl _
    · exact openQuery_path ordinary (hosting key selected) nick

theorem openJoinedChannel_path (ordinary : Ordinary permits) {networkId : String}
    (hosting : hosts networkId) (channel : String) :
    Path hosts permits controller (controller.openJoinedChannel networkId channel) := by
  unfold openJoinedChannel
  dsimp only
  split
  · exact .refl _
  · have cleared : Path hosts permits controller (controller.onReducer fun reducer =>
        reducer.clearClosed (controller.reducer.conversationKey networkId channel)) := by
      refine ⟨fun addressed hosted => ?_⟩
      exact @perform_chain _ _ _ _ _ _ addressed.keyed (addressed.holds hosted)
        (.clearClosed _) trivial trivial
    have opened := cleared.trans ordinary
      (@ensureConversation_path _ _ _ _ _ permits _ _ hosting channel .channelState)
    split
    · exact opened.trans ordinary (select_path ordinary networkId channel)
    · exact opened

end Selection

section Closing

theorem markChannelLeft_path (networkId channel : String) :
    Path hosts permits controller (controller.markChannelLeft networkId channel) := by
  unfold markChannelLeft
  split
  · exact .refl _
  · exact .of_chain (Reducer.markChannelLeft_chain _)

/-- A row may be taken out of the reducer with its mute. -/
structure Dropping (permits : Reducer.Act → Prop) (key : ConversationKey) : Prop where
  mutes : permits (.mutes key false)
  removes : permits (.removes key)

theorem dropRow_path {key : ConversationKey} (dropping : Dropping permits key) :
    Path hosts permits controller (controller.dropRow key) := by
  refine ⟨fun addressed hosted => ?_⟩
  have muted : Chain (naming hosts permits) controller.reducer
      (controller.reducer.setMuted key false) := .single (.mute key false dropping.mutes)
  unfold dropRow onReducer EventReducer.dropChannel EventReducer.dropDirectMessage
  dsimp only
  split
  · split
    · exact muted
    · split
      · exact muted.tail (.remove key dropping.removes)
      · exact muted
  · split
    · exact muted
    · split
      · exact muted
      · exact muted.tail (.remove key dropping.removes)

theorem dropAndReselect_path (ordinary : Ordinary permits) {key : ConversationKey}
    (dropping : Dropping permits key) :
    Path hosts permits controller (controller.dropAndReselect key) := by
  unfold dropAndReselect
  dsimp only
  have dropped := @dropRow_path _ _ _ _ hosts _ controller _ dropping
  split
  · split
    · exact dropped.trans ordinary (select_path ordinary ..)
    · exact dropped.trans ordinary (clearSelected_path ordinary)
  · exact dropped

theorem dismissChannel_path (ordinary : Ordinary permits) {networkId channel : String}
    (dropping : Dropping permits (controller.reducer.conversationKey networkId channel)) :
    Path hosts permits controller (controller.dismissChannel networkId channel).1 := by
  unfold dismissChannel
  dsimp only
  split
  · exact .refl _
  · split
    · exact dropAndReselect_path ordinary dropping
    · exact .refl _

omit [Platform] [CharacterClasses] [TranscriptLog Log] in
/-- The key of a row is read from the target it shows. -/
theorem shown_key (addressed : Addressed controller.reducer) {key : ConversationKey}
    {conv : ConversationState} (found : controller.find key = some conv) :
    controller.reducer.conversationKey key.networkId
      (if conv.target = "" then key.normalizedTarget else conv.target) = key := by
  have own := addressed.keyed key conv found
  have named := addressed.named key conv found
  rw [Named, own] at named
  have folded : controller.reducer.facts.normalize key.networkId
      (if conv.target = "" then key.normalizedTarget else conv.target) = key.normalizedTarget := by
    split
    · rename_i blank
      have empty : key.normalizedTarget = "" := by
        rw [← named, blank]
        rfl
      rw [empty]
      rfl
    · exact named
  rw [EventReducer.conversationKey, folded]

theorem closeKey_path (ordinary : Ordinary permits) {key : ConversationKey}
    (dropping : Dropping permits key) :
    Path hosts permits controller (controller.closeKey key).1 := by
  unfold closeKey
  split
  · rename_i conv found
    split
    · exact .refl _
    · dsimp only
      refine ⟨fun addressed hosted => ?_⟩
      have there : controller.find key = some conv := (Option.filter_eq_some_iff.mp found).1
      have noted : Chain (naming hosts permits) controller.reducer
          (controller.reducer.noteClosed key) :=
        @perform_chain _ _ _ _ _ _ addressed.keyed (addressed.holds hosted) (.noteClosed key)
          trivial trivial
      have same : ((controller.reducer.noteClosed key).conversationKey key.networkId
          (if conv.target = "" then key.normalizedTarget else conv.target)) = key := by
        have framed : (controller.reducer.noteClosed key).facts.normalize =
            controller.reducer.facts.normalize := by
          unfold EventReducer.noteClosed
          split
          · rfl
          · dsimp only
            split
            · rfl
            · rfl
        refine Eq.trans ?_ (shown_key addressed there)
        rw [EventReducer.conversationKey, framed]
        rfl
      have dismissed : Path hosts permits
          { controller with
            cancelledJoins := insert key controller.cancelledJoins
            reducer := controller.reducer.noteClosed key } _ :=
        dismissChannel_path ordinary (same.symm ▸ dropping)
      exact Relation.ReflTransGen.trans noted
        (dismissed.chain (addressed.chain ordinary.settled noted) (hosted.chain noted))
  · exact (forgetOpenDirect_path ..).trans ordinary (dropAndReselect_path ordinary dropping)

theorem closeSelected_path (ordinary : Ordinary permits)
    (dropping : ∀ key, controller.selected = some key → Dropping permits key) :
    Path hosts permits controller controller.closeSelected.1 := by
  unfold closeSelected
  split
  · exact .refl _
  · rename_i key selected
    exact closeKey_path ordinary (dropping key selected)

theorem closeConversation_path (ordinary : Ordinary permits) {networkId target : String}
    (dropping : Dropping permits (controller.reducer.conversationKey networkId target)) :
    Path hosts permits controller (controller.closeConversation networkId target).1 := by
  unfold closeConversation
  dsimp only
  split
  · exact .refl _
  · split
    · exact .refl _
    · exact closeKey_path ordinary dropping

end Closing

section Events

/-- A direct message that an event gives a new key may be renamed. -/
def Renaming (permits : Reducer.Act → Prop) (controller : Controller Log) : Event → Prop
  | .nick networkId old new =>
      ∀ conv, controller.find (controller.reducer.conversationKey networkId old) = some conv →
        conv.isChannel = false →
        controller.reducer.conversationKey networkId old ≠
          controller.reducer.conversationKey networkId new →
        permits (.renames (controller.reducer.conversationKey networkId old)
          (controller.reducer.conversationKey networkId new))
  | _ => True

omit [Platform] [CharacterClasses] [TranscriptLog Log] in
/-- An addressed event fits the conversations it opens. -/
theorem admits_address {event : Event} (hosting : hosts event.networkId)
    (renamable : Renaming permits controller event) :
    Admits (naming hosts permits) controller.reducer.forgetArrivals (controller.address event) := by
  have lines : ∀ line : ChatEvent, hosts line.conversation.networkId →
      (naming hosts permits : Rules (Stored Log)).opens
        (controller.reducer.forgetArrivals.facts.caseMapping line.conversation.networkId)
        (address.keyOf controller line)
        (displayTarget (address.keyOf controller line) line.target) := by
    intro line hosting
    refine ⟨?_, hosting⟩
    unfold displayTarget
    split
    · rename_i blank
      unfold address.keyOf EventReducer.conversationKey Facts.normalize
      dsimp only
      rw [blank]
      rfl
    · rfl
  cases event with
  | message line => exact lines line hosting
  | notice line => exact lines line hosting
  | action line => exact lines line hosting
  | join networkId channel nick account realname => exact ⟨⟨rfl, hosting⟩, fun _ => trivial⟩
  | topic networkId channel topic keepExistingTopic => exact ⟨rfl, hosting⟩
  | names networkId channel names complete => exact ⟨rfl, hosting⟩
  | mode networkId target author mode arguments => exact ⟨rfl, hosting⟩
  | nick networkId old new => exact ⟨⟨rfl, hosting⟩, renamable⟩
  | history batch => exact ⟨rfl, hosting⟩
  | _ => exact trivial

/-- What the controller does with an event that was folded in is a path. -/
theorem apply_folded_path (ordinary : Ordinary permits) (event : Event) (now : Instant) :
    Path hosts permits (controller.onReducer fun reducer => reducer.apply event now)
      (controller.apply event now) := by
  unfold apply
  dsimp only
  have noted := @noteLists_path _ _ _ _ hosts _
    (controller.onReducer fun reducer => reducer.apply event now) ordinary event
    (controller.otherReopenedDirect event)
  have claimed : ∀ current : Controller Log,
      Path hosts permits current current.claimFirstConversation := by
    intro current
    unfold claimFirstConversation
    split
    · exact .refl _
    · split
      · exact .refl _
      · exact .of_chain (markSelected_chain (ordinary.selects _))
  have taken : ∀ current : Controller Log,
      Path hosts permits current (current.takeArrivals now) := by
    intro current
    refine .of_chain ((releaseStaleNamesSync_chain current.selected now).trans ?_)
    exact (facts_chain ⟨rfl, rfl, rfl, fun _ _ => id⟩).trans
      (facts_chain ⟨rfl, rfl, rfl, fun _ _ => id⟩)
  refine Path.trans ordinary ?_ (taken _)
  split
  · exact noted.trans ordinary (claimed _)
  · exact noted

theorem apply_path (ordinary : Ordinary permits) {event : Event}
    (admits : Admits (naming hosts permits) controller.reducer.forgetArrivals event)
    (now : Instant) :
    Path hosts permits controller (controller.apply event now) := by
  have folded : Path hosts permits controller
      (controller.onReducer fun reducer => reducer.apply event now) := by
    refine ⟨fun addressed hosted => ?_⟩
    have lands : Lands (naming hosts permits) controller.reducer (.apply event now) :=
      (naming_lenient hosts permits).lands_call (addressed.holds hosted) fun _ _ _ _ _ _ => trivial
    exact apply_chain addressed.keyed (addressed.holds hosted) admits lands now
  exact folded.trans ordinary (apply_folded_path ordinary event now)

omit [Platform] [CharacterClasses] [TranscriptLog Log] in
theorem followNick_reducer (event : Event) :
    (controller.followNick event).reducer = controller.reducer := by
  unfold followNick
  split
  · split
    · rfl
    · rfl
  · rfl

theorem dropCancelledJoin_path (ordinary : Ordinary permits) (link : Link)
    {networkId channel : String} {key : ConversationKey}
    (dropping : Dropping permits (controller.reducer.conversationKey networkId channel)) :
    Path hosts permits controller
      (controller.dropCancelledJoin link networkId channel key) := by
  unfold dropCancelledJoin
  dsimp only
  have parted : ∀ current : Controller Log, current.reducer = controller.reducer →
      Path hosts permits controller
        (if current.reducer.facts.isClosed key then (current.dismissChannel networkId channel).1
          else current.markChannelLeft networkId channel) := by
    intro current same
    have begun : Path hosts permits controller current := .of_eq same
    split
    · refine begun.trans ordinary (dismissChannel_path ordinary ?_)
      rw [same]
      exact dropping
    · exact begun.trans ordinary (markChannelLeft_path ..)
  split
  · exact parted _ rfl
  · exact parted _ rfl

/-- Along an ordinary path the keys stay what they are. -/
theorem Path.conversationKey (ordinary : Ordinary permits) {before after : Controller Log}
    (path : Path hosts permits before after) (addressed : Addressed before.reducer)
    (hosted : Hosted hosts before.reducer) (networkId target : String) :
    after.reducer.conversationKey networkId target =
      before.reducer.conversationKey networkId target := by
  have same := Chain.caseMapping (path.chain addressed hosted) ordinary.settled ordinary.keeps
    networkId
  rw [EventReducer.conversationKey, EventReducer.conversationKey, Facts.normalize, Facts.normalize,
    same]

theorem handleEvent_path (ordinary : Ordinary permits) (link : Link) {event : Event}
    (hosting : hosts event.networkId) (renamable : Renaming permits controller event)
    (dropping : ∀ channel,
      joinedBy (controller.caseMapping event.networkId) (controller.currentNick event.networkId)
        event = some channel →
      controller.reducer.conversationKey event.networkId channel ∈ controller.cancelledJoins →
      Dropping permits (controller.reducer.conversationKey event.networkId channel))
    (now : Instant) :
    Path hosts permits controller
      (controller.handleEvent link (controller.address event) now) := by
  have admits := @admits_address _ _ permits _ _ hosting renamable
  have network : (controller.address event).networkId = event.networkId := by
    cases event <;> rfl
  have joined : ∀ mapping current,
      joinedBy mapping current (controller.address event) = joinedBy mapping current event := by
    intro mapping current
    cases event <;> rfl
  rw [← followNick_reducer (controller.address event)] at admits
  have followed : Path hosts permits controller (controller.followNick (controller.address event)) :=
    .of_eq (followNick_reducer _)
  have applied := followed.trans ordinary (apply_path ordinary admits now)
  have cancelled : ((controller.followNick (controller.address event)).apply
      (controller.address event) now).cancelledJoins = controller.cancelledJoins := by
    refine (apply_shown _ now).cancelledJoins.trans ?_
    unfold followNick
    split
    · split
      · rfl
      · rfl
    · rfl
  unfold handleEvent
  dsimp only
  rw [network, joined]
  generalize (controller.followNick (controller.address event)).apply (controller.address event) now
    = current at applied cancelled ⊢
  split
  · exact applied
  · rename_i channel own
    split
    · rename_i marked
      rw [cancelled] at marked
      refine ⟨fun addressed hosted => ?_⟩
      have chain := applied.chain addressed hosted
      have same := applied.conversationKey ordinary addressed hosted event.networkId channel
      have dropping := dropping channel own marked
      have landed : ∀ marks : Finset ConversationKey, Path hosts permits current
          (({ current with cancelledJoins := marks }).dropCancelledJoin link event.networkId channel
            (controller.reducer.conversationKey event.networkId channel)) :=
        fun marks => (@dropCancelledJoin_path _ _ _ _ _ _ { current with cancelledJoins := marks }
          ordinary link _ _ _ (same.symm ▸ dropping)).since rfl
      have landed := landed (current.cancelledJoins.erase
        (controller.reducer.conversationKey event.networkId channel))
      exact Relation.ReflTransGen.trans chain
        (landed.chain (addressed.chain ordinary.settled chain) (hosted.chain chain))
    · split
      · refine applied.trans ordinary ?_
        unfold onSelfJoin
        split
        · exact select_path ordinary ..
        · exact .refl _
      · exact applied

theorem restoreOpenDirects_path (ordinary : Ordinary permits) {networkId : String}
    (hosting : hosts networkId) (targets : List String) :
    Path hosts permits controller (controller.restoreOpenDirects networkId targets) := by
  unfold restoreOpenDirects
  induction targets generalizing controller with
  | nil => exact .refl _
  | cons target rest inductionHypothesis =>
      rw [List.foldl_cons]
      refine Path.trans ordinary ?_ inductionHypothesis
      split
      · exact .refl _
      · exact ensureConversation_path hosting target .restore

theorem dropEmptyDirect_path {networkId target : String}
    (removes : permits (.removes (controller.reducer.conversationKey networkId target))) :
    Path hosts permits controller (controller.dropEmptyDirect networkId target) := by
  unfold dropEmptyDirect
  dsimp only
  split
  · refine ⟨fun addressed hosted => ?_⟩
    exact @perform_chain _ _ _ _ _ _ addressed.keyed (addressed.holds hosted)
      (.dropDirectMessage _) removes trivial
  · exact .refl _

theorem noteDiscoveredTarget_path (ordinary : Ordinary permits) {networkId name : String}
    (hosting : hosts networkId)
    (removes : permits (.removes (controller.reducer.conversationKey networkId name)))
    (requested : Bool) :
    Path hosts permits controller
      (controller.noteDiscoveredTarget networkId name requested) := by
  unfold noteDiscoveredTarget
  dsimp only
  have opened := @ensureConversation_path _ _ _ _ _ permits controller _ hosting
    name .inboundOther
  split
  · exact .refl _
  · split
    · exact opened
    · refine ⟨fun addressed hosted => ?_⟩
      have chain := opened.chain addressed hosted
      have same := opened.conversationKey ordinary addressed hosted networkId name
      exact Relation.ReflTransGen.trans chain
        ((@dropEmptyDirect_path _ _ _ _ hosts _ _ _ _ (same ▸ removes)).chain
          (addressed.chain ordinary.settled chain) (hosted.chain chain))

theorem releaseHeld_path (ordinary : Ordinary permits) (networkId : String) :
    Path hosts permits controller
      ((controller.onReducer fun reducer =>
        (reducer.releasePendingQueryPlayback networkId).1).noteKeptReplay) :=
  Path.trans ordinary
    ⟨fun addressed hosted => releasePendingQueryPlayback_chain (addressed.holds hosted)
      ((naming_lenient hosts permits).released (addressed.holds hosted) networkId)⟩
    (noteKeptReplay_path ordinary)

theorem echoIfPresent_path (ordinary : Ordinary permits) {networkId : String}
    (hosting : hosts networkId) (link : Link) (target body : String) (kind : Outgoing)
    (now : Instant) :
    Path hosts permits controller
      (controller.echoIfPresent link networkId target body kind now) := by
  unfold echoIfPresent
  dsimp only
  split
  · exact .refl _
  · split
    · exact .refl _
    · refine apply_path ordinary ?_ now
      have admits := @admits_address _ _ permits controller
        (echoEvent { conversation := controller.reducer.conversationKey networkId target
                     author := link.nick, body, timestamp := now, target } kind)
        (by cases kind <;> exact hosting) (by cases kind <;> exact trivial)
      cases kind with
      | say => exact admits
      | action => exact admits
      | notice => exact admits

end Events

section Joins

theorem joinTarget_path (ordinary : Ordinary permits) (link : Link) (networkId : String)
    (target : IrcJoinTarget) :
    Path hosts permits controller (controller.joinTarget link networkId target).1 := by
  unfold joinTarget
  dsimp only
  generalize controller.reducer.conversationKey networkId target.channel = key
  have cleared : Path hosts permits controller
      { controller with
        reducer := controller.reducer.clearClosed key
        cancelledJoins := controller.cancelledJoins.erase key } :=
    ⟨fun addressed hosted => @perform_chain _ _ _ _ _ _ addressed.keyed (addressed.holds hosted)
      (.clearClosed key) trivial trivial⟩
  split
  · exact cleared.trans ordinary (.of_eq rfl)
  · refine cleared.trans ordinary ?_
    have restored : ∀ current : Controller Log, Path hosts permits current
        { current with reducer := current.reducer.noteClosed key } :=
      fun current => ⟨fun addressed hosted => @perform_chain _ _ _ _ _ _ addressed.keyed
        (addressed.holds hosted) (.noteClosed key) trivial trivial⟩
    dsimp only
    split
    · exact (restored _).trans ordinary (.of_eq rfl)
    · exact .of_eq rfl

theorem joinTargets_path (ordinary : Ordinary permits) (link : Link) (networkId : String)
    (targets : List IrcJoinTarget) :
    Path hosts permits controller (controller.joinTargets link networkId targets).1 := by
  unfold joinTargets
  have folded : ∀ (targets : List IrcJoinTarget) (current : Controller Log) (sent : Bool),
      Path hosts permits controller current →
      Path hosts permits controller (targets.foldl (fun state target =>
        ((state.1.joinTarget link networkId target).1,
          (state.1.joinTarget link networkId target).2 && state.2)) (current, sent)).1 := by
    intro targets
    induction targets with
    | nil => exact fun current sent path => path
    | cons target rest inductionHypothesis =>
        intro current sent path
        exact inductionHypothesis _ _ (path.trans ordinary (joinTarget_path ordinary ..))
  exact folded targets controller true (.refl _)

theorem dispatchJoin_path (ordinary : Ordinary permits) (link : Link) {networkId : String}
    (hosting : networkId ∈ controller.sessions → hosts networkId) (argument : String) :
    Path hosts permits controller (controller.dispatchJoin link networkId argument).1 := by
  unfold dispatchJoin
  split
  · exact .refl _
  · rename_i ready
    rw [not_or, not_not] at ready
    split
    · exact .refl _
    · rename_i targets _
      have joined := @joinTargets_path _ _ _ _ hosts _ controller ordinary link
        networkId targets
      dsimp only
      split
      · split
        · exact joined.trans ordinary (openJoinedChannel_path ordinary (hosting ready.1) _)
        · exact joined
      · exact joined

theorem joinChannel_path (ordinary : Ordinary permits) (link : Link)
    (networkId channel : String) :
    Path hosts permits controller (controller.joinChannel link networkId channel).1 := by
  unfold joinChannel
  split
  · exact .refl _
  · split
    · exact .refl _
    · split
      · exact (select_path ordinary ..).since rfl
      · exact .refl _

theorem dispatchPart_path (link : Link) (networkId channel : String) :
    Path hosts permits controller (controller.dispatchPart link networkId channel).1 := by
  unfold dispatchPart
  split
  · exact .refl _
  · split
    · exact .refl _
    · dsimp only
      split
      · split
        · exact (markChannelLeft_path ..).since rfl
        · exact .refl _
      · exact .of_eq rfl
      · split
        · exact .of_eq rfl
        · exact .refl _

end Joins

section Sends

theorem sendSelected_path (ordinary : Ordinary permits)
    (hosting : ∀ networkId ∈ controller.sessions, hosts networkId) (link : Link) (kind : Outgoing)
    (text : String) (now : Instant) :
    Path hosts permits controller (controller.sendSelected link kind text now).1 := by
  unfold sendSelected
  split
  · exact .refl _
  · rename_i key _
    split
    · exact .refl _
    · rename_i inside
      rw [not_not] at inside
      split
      · exact .refl _
      · dsimp only
        split
        · exact (echoIfPresent_path ordinary (hosting _ inside) link _ _ _ _).since rfl
        · exact .refl _

theorem dispatchQuery_path (ordinary : Ordinary permits) {networkId : String}
    (hosting : networkId ≠ "" → hosts networkId)
    (sessions : ∀ networkId ∈ controller.sessions, hosts networkId) (link : Link)
    (nick text : String) (now : Instant) :
    Path hosts permits controller (controller.dispatchQuery link networkId nick text now).1 := by
  unfold dispatchQuery
  split
  · exact .refl _
  · rename_i given
    rw [not_or] at given
    split
    · exact .refl _
    · have opened := @openQuery_path _ _ _ _ _ permits controller ordinary _
        (hosting given.1) nick
      have same := (@openQuery_shown _ controller _ _ _ networkId nick).sessions
      dsimp only
      split
      · exact opened
      · split
        · exact opened
        · refine opened.trans ordinary (sendSelected_path ordinary ?_ link _ text now)
          rw [same]
          exact sessions

theorem quietSend_path (ordinary : Ordinary permits)
    (hosting : ∀ networkId ∈ controller.sessions, hosts networkId) (link : Link)
    (networkId target text : String) (kind : Outgoing) (now : Instant) :
    Path hosts permits controller
      (controller.quietSend link networkId target text kind now).1 := by
  unfold quietSend
  split
  · exact .refl _
  · split
    · exact .refl _
    · rename_i ready
      rw [not_or, not_not] at ready
      have inside := hosting networkId ready.1
      split
      · dsimp only
        refine Path.trans ordinary ?_ (echoIfPresent_path ordinary inside link _ _ _ _)
        refine Path.trans ordinary ?_ (ensureConversation_path inside target .quietSend)
        split
        · exact (rememberOpenDirect_path ..).since rfl
        · exact .of_eq rfl
      · exact .refl _

end Sends

section Networks

theorem applyMute_path {networkId target : String} {muted : Bool}
    (mutes : permits (.mutes (controller.reducer.conversationKey networkId target) muted)) :
    Path hosts permits controller (controller.applyMute networkId target muted).1 := by
  unfold applyMute
  split
  · exact .refl _
  · exact .of_chain (.single (.mute _ muted mutes))

theorem attachStoreHooks_path (ordinary : Ordinary permits) {networkId : String}
    (mutes : ∀ target ∈ controller.mutes.entries networkId,
      permits (.mutes (controller.reducer.conversationKey networkId target) true))
    (words : List String) :
    Path hosts permits controller (controller.attachStoreHooks networkId words) := by
  have highlighted : Path hosts permits controller
      (if networkId = "" then controller
        else controller.onReducer fun reducer => reducer.setHighlightWords networkId words) := by
    split
    · exact .refl _
    · exact ⟨fun addressed hosted => @perform_chain _ _ _ _ _ _ addressed.keyed
        (addressed.holds hosted) (.setHighlightWords networkId words) trivial trivial⟩
  have kept : (if networkId = "" then controller
      else controller.onReducer fun reducer =>
        reducer.setHighlightWords networkId words).mutes = controller.mutes := by
    split
    · rfl
    · rfl
  refine ⟨fun addressed hosted => ?_⟩
  have chain := highlighted.chain addressed hosted
  have same := fun target =>
    highlighted.conversationKey ordinary addressed hosted networkId target
  unfold attachStoreHooks
  dsimp only
  generalize (if networkId = "" then controller
    else controller.onReducer fun reducer => reducer.setHighlightWords networkId words) = current
    at chain kept same ⊢
  rw [kept]
  have muting : ∀ (targets : List String) (reducer : EventReducer (Stored Log)),
      (∀ target ∈ targets, permits (.mutes (reducer.conversationKey networkId target) true)) →
      Chain (naming hosts permits) reducer (targets.foldl (fun reducer target =>
        reducer.setMuted (reducer.conversationKey networkId target) true) reducer) := by
    intro targets
    induction targets with
    | nil => exact fun _ _ => .refl
    | cons target rest inductionHypothesis =>
        intro reducer permitted
        refine .head (.mute _ true (permitted target (List.mem_cons_self ..)))
          (inductionHypothesis _ fun other listed => ?_)
        have key : (reducer.setMuted (reducer.conversationKey networkId target)
            true).conversationKey networkId other = reducer.conversationKey networkId other := by
          unfold EventReducer.conversationKey Facts.normalize
          rw [setMuted_caseMapping]
        rw [key]
        exact permitted other (List.mem_cons_of_mem _ listed)
  refine Relation.ReflTransGen.trans chain (muting _ _ fun target listed => ?_)
  rw [same]
  exact mutes target listed

end Networks

end Paths

end Controller

end Omairc
