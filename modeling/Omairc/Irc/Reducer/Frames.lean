import Omairc.Irc.Reducer.System
import Omairc.Text.Maps

/-!
# What a fold leaves alone

The folds of rows change the log, the arrivals and the claims, and nothing else that is
known about a network. Each conversation keeps its key, its target and its channel half,
the history anchor apart.
-/

namespace Omairc.Irc.Reducer

open Omairc.Text

variable {Disk : Type}

/-- The features, the mutes and the selection are what they were, and no batch is held
that was not held before. -/
structure Framed (facts changed : Facts Disk) : Prop where
  features : changed.features = facts.features
  mutedKeys : changed.mutedKeys = facts.mutedKeys
  selected : changed.selected = facts.selected
  held : ∀ (key : ConversationKey) (event : HistoryEvent),
    changed.pendingPlayback[key]? = some event → facts.pendingPlayback[key]? = some event

namespace Framed

variable {facts middle changed : Facts Disk}

theorem refl (facts : Facts Disk) : Framed facts facts := ⟨rfl, rfl, rfl, fun _ _ => id⟩

theorem trans (first : Framed facts middle) (second : Framed middle changed) :
    Framed facts changed where
  features := second.features.trans first.features
  mutedKeys := second.mutedKeys.trans first.mutedKeys
  selected := second.selected.trans first.selected
  held := fun key event found => first.held key event (second.held key event found)

/-- Identifiers are read under the same mapping. -/
theorem caseMapping (framed : Framed facts changed) (networkId : String) :
    changed.caseMapping networkId = facts.caseMapping networkId := by
  rw [Facts.caseMapping, Facts.isupport, framed.features]
  rfl

theorem normalize (framed : Framed facts changed) (networkId identifier : String) :
    changed.normalize networkId identifier = facts.normalize networkId identifier := by
  rw [Facts.normalize, framed.caseMapping]
  rfl

end Framed

/-- A fold over a list changes no more than its steps do. -/
theorem foldl_framed {Item State : Type} (factsOf : State → Facts Disk)
    {change : State → Item → State}
    (steps : ∀ state item, Framed (factsOf state) (factsOf (change state item)))
    (items : List Item) (state : State) :
    Framed (factsOf state) (factsOf (items.foldl change state)) := by
  induction items generalizing state with
  | nil => exact .refl _
  | cons item rest inductionHypothesis =>
      exact (steps state item).trans (inductionHypothesis (change state item))

/-- A change of the channel claims alone. -/
def Claimed (facts changed : Facts Disk) : Prop :=
  ∃ channelContextMsgids, changed = { facts with channelContextMsgids }

namespace Claimed

variable {facts middle changed : Facts Disk}

theorem refl (facts : Facts Disk) : Claimed facts facts := ⟨_, rfl⟩

theorem trans (first : Claimed facts middle) (second : Claimed middle changed) :
    Claimed facts changed := by
  obtain ⟨_, rfl⟩ := first
  obtain ⟨claims, rfl⟩ := second
  exact ⟨claims, rfl⟩

theorem framed (claimed : Claimed facts changed) : Framed facts changed := by
  obtain ⟨claims, rfl⟩ := claimed
  exact ⟨rfl, rfl, rfl, fun _ _ => id⟩

/-- The user goes by the same nicks. -/
theorem isSelf (claimed : Claimed facts changed) (networkId nick : String) :
    changed.isSelf networkId nick = facts.isSelf networkId nick := by
  obtain ⟨claims, rfl⟩ := claimed
  rfl

/-- A fold over a list changes the claims alone when its steps do. -/
theorem foldl {Item State : Type} (factsOf : State → Facts Disk) {change : State → Item → State}
    (steps : ∀ state item, Claimed (factsOf state) (factsOf (change state item)))
    (items : List Item) (state : State) :
    Claimed (factsOf state) (factsOf (items.foldl change state)) := by
  induction items generalizing state with
  | nil => exact .refl _
  | cons item rest inductionHypothesis =>
      exact (steps state item).trans (inductionHypothesis (change state item))

end Claimed

section Facts

variable (facts : Facts Disk) (conv : ConversationState)

theorem claimChannelContext_claimed (home : ConversationKey) (isChannel : Bool) (msgid : MsgId)
    (only : Bool) : Claimed facts (facts.claimChannelContext home isChannel msgid only) := by
  unfold Facts.claimChannelContext
  split
  · exact .refl _
  · exact ⟨_, rfl⟩

theorem claimChannelContext_framed (home : ConversationKey) (isChannel : Bool) (msgid : MsgId)
    (only : Bool) : Framed facts (facts.claimChannelContext home isChannel msgid only) :=
  (claimChannelContext_claimed facts home isChannel msgid only).framed

theorem onPresence_framed (networkId : String) (change : NetworkPresence → NetworkPresence) :
    Framed facts (facts.onPresence networkId change) := ⟨rfl, rfl, rfl, fun _ _ => id⟩

theorem rememberSelfNick_framed (networkId nick : String) :
    Framed facts (facts.rememberSelfNick networkId nick) := by
  unfold Facts.rememberSelfNick
  split
  · exact .refl _
  · exact ⟨rfl, rfl, rfl, fun _ _ => id⟩

theorem forgetTranscriptMsgid_claimed (msgid : MsgId) :
    Claimed facts (forgetTranscriptMsgid facts conv msgid).1 := by
  unfold forgetTranscriptMsgid Facts.releaseChannelContext
  split
  · exact .refl _
  · split
    · exact ⟨_, rfl⟩
    · exact .refl _

theorem forgetTranscriptMsgid_framed (msgid : MsgId) :
    Framed facts (forgetTranscriptMsgid facts conv msgid).1 :=
  (forgetTranscriptMsgid_claimed facts conv msgid).framed

theorem forgetRows_claimed (rows : List Message) : Claimed facts (forgetRows facts conv rows).1 :=
  Claimed.foldl Prod.fst (fun state _ => forgetTranscriptMsgid_claimed state.1 state.2 _) rows
    (facts, conv)

theorem capWithPolicy_claimed (dropFromHead : Bool) :
    Claimed facts (capWithPolicy facts conv dropFromHead).1 := by
  unfold capWithPolicy
  split
  · exact .refl _
  · split
    · dsimp only
      split
      · exact forgetRows_claimed ..
      · exact forgetRows_claimed ..
    · exact forgetRows_claimed ..

theorem capWithPolicy_framed (dropFromHead : Bool) :
    Framed facts (capWithPolicy facts conv dropFromHead).1 :=
  (capWithPolicy_claimed facts conv dropFromHead).framed

theorem dropLastTranscriptRow_framed : Framed facts (dropLastTranscriptRow facts conv).1 := by
  unfold dropLastTranscriptRow
  split
  · exact .refl _
  · exact forgetTranscriptMsgid_framed ..

end Facts

section Log

variable [Storage Disk] (facts : Facts Disk) (conv : ConversationState)

theorem persistMessage_framed (message : Message) :
    Framed facts (persistMessage facts conv message) := by
  unfold persistMessage
  split
  · exact .refl _
  · exact ⟨rfl, rfl, rfl, fun _ _ => id⟩

theorem persistMessagesPrepend_framed (messages : List Message) :
    Framed facts (persistMessagesPrepend facts conv messages) := by
  unfold persistMessagesPrepend
  dsimp only
  split
  · exact .refl _
  · exact ⟨rfl, rfl, rfl, fun _ _ => id⟩

theorem admitLogged_framed (message : Message) :
    Framed facts (admitLogged facts conv message).1 :=
  (persistMessage_framed facts conv _).trans (capWithPolicy_framed ..)

/-- An event row is skipped, admitted, folded into the caption at the tail, or takes that
caption away. -/
theorem appendEvent_cases (body : String) (collapsible membership : Bool) :
    appendEvent facts conv body collapsible membership = (facts, conv) ∨
    (∃ shown, appendEvent facts conv body collapsible membership =
      admitLogged facts conv { kind := .event, body, collapsible := shown }) ∨
    (∃ last text, conv.messages.getLast? = some last ∧
      appendEvent facts conv body collapsible membership =
        (facts, { conv with
          messages := conv.messages.dropLast ++ [{ last with body := text }] })) ∨
    ((∀ last, conv.messages.getLast? = some last → last.kind = .event) ∧
      appendEvent facts conv body collapsible membership = dropLastTranscriptRow facts conv) := by
  rw [appendEvent]
  by_cases hidden : membership = true ∧ facts.membershipNoise = .hidden
  · exact .inl (if_pos hidden)
  rw [if_neg hidden]
  dsimp only
  generalize (if membership = true ∧ facts.membershipNoise = .every then false else collapsible)
    = shown
  cases newest : conv.messages.getLast? with
  | none => exact .inr (.inl ⟨_, rfl⟩)
  | some last =>
      dsimp only
      split_ifs with caption
      · refine .inr (.inr (.inr ⟨?_, rfl⟩))
        rintro _ ⟨⟩
        exact caption.2.2.1
      · exact .inr (.inr (.inl ⟨last, _, rfl, rfl⟩))
      · exact .inr (.inr (.inl ⟨last, _, rfl, rfl⟩))
      · exact .inr (.inl ⟨_, rfl⟩)
      · exact .inr (.inl ⟨_, rfl⟩)

theorem appendEvent_framed (body : String) (collapsible membership : Bool) :
    Framed facts (appendEvent facts conv body collapsible membership).1 := by
  rcases appendEvent_cases facts conv body collapsible membership with
    same | ⟨_, same⟩ | ⟨_, _, _, same⟩ | ⟨_, same⟩
  · rw [same]
    exact .refl _
  · rw [same]
    exact admitLogged_framed ..
  · rw [same]
    exact .refl _
  · rw [same]
    exact dropLastTranscriptRow_framed ..

theorem logged_framed (splice : Splice Disk) : Framed splice.facts splice.logged := by
  unfold Splice.logged
  split
  · exact persistMessagesPrepend_framed ..
  · exact foldl_framed id (fun facts message => persistMessage_framed facts splice.conv message)
      splice.run splice.facts

/-- The transcript with the run in place and the anchor moved past it. -/
def Splice.landed (splice : Splice Disk) : ConversationState :=
  splice.inserted.moveAnchor (· + splice.run.length)

/-- A placed run is capped at the head, or at the tail where a page of older lines armed
the tail cap. -/
theorem placed_cases (splice : Splice Disk) (event : HistoryEvent) (previousSize : Nat) :
    ∃ spliceEpoch,
      (¬(splice.landed.historyPageCapTail = true ∧ event.kind = .chat) ∧
          splice.placed event previousSize =
            capMessages splice.logged { splice.landed with spliceEpoch }) ∨
        (splice.landed.historyPageCapTail = true ∧ event.kind = .chat ∧
          splice.placed event previousSize =
            capMessagesPreferTail splice.logged
              { splice.landed with spliceEpoch, historyPageCapTail := false }) := by
  rw [Splice.placed]
  dsimp only
  by_cases inPlace : splice.at_ = previousSize
  · refine ⟨splice.landed.spliceEpoch, ?_⟩
    rw [if_neg (not_not_intro inPlace)]
    by_cases armed : splice.landed.historyPageCapTail = true ∧ event.kind = .chat
    · exact .inr ⟨armed.1, armed.2, if_pos armed⟩
    · exact .inl ⟨armed, if_neg armed⟩
  · refine ⟨splice.landed.spliceEpoch + 1, ?_⟩
    rw [if_pos inPlace]
    by_cases armed : splice.landed.historyPageCapTail = true ∧ event.kind = .chat
    · exact .inr ⟨armed.1, armed.2, if_pos armed⟩
    · exact .inl ⟨armed, if_neg armed⟩

theorem placed_framed (splice : Splice Disk) (event : HistoryEvent) (previousSize : Nat) :
    Framed splice.facts (splice.placed event previousSize).1 := by
  refine (logged_framed splice).trans ?_
  obtain ⟨spliceEpoch, ⟨_, same⟩ | ⟨_, _, same⟩⟩ := placed_cases splice event previousSize
  · rw [same]
    exact capWithPolicy_framed ..
  · rw [same]
    exact capWithPolicy_framed ..

end Log

section Membership

theorem foldRun_framed (splice : Splice Disk) (line : ReplayMembership)
    {result : Splice Disk × MembershipReplayResult} (folded : splice.foldRun line = some result) :
    Framed splice.facts result.1.facts := by
  unfold Splice.foldRun at folded
  split at folded
  · cases folded
  · split at folded
    · cases folded
    · cases folded
      exact .refl _
    · cases folded
      exact forgetTranscriptMsgid_framed ..

theorem foldTranscript_framed (splice : Splice Disk) (line : ReplayMembership)
    {result : Splice Disk × MembershipReplayResult}
    (folded : splice.foldTranscript line = some result) :
    Framed splice.facts result.1.facts := by
  unfold Splice.foldTranscript at folded
  split at folded
  · cases folded
  · dsimp only at folded
    split at folded
    · cases folded
    · split at folded
      · cases folded
      · cases folded
        exact .refl _
      · cases folded
        exact forgetTranscriptMsgid_framed ..

theorem admitMembershipReplay_framed (splice : Splice Disk) (line : ReplayMembership) :
    Framed splice.facts (admitMembershipReplay splice line).1.facts := by
  unfold admitMembershipReplay
  dsimp only
  split
  · exact .refl _
  · split
    · exact .refl _
    · split
      · cases folded : splice.foldTranscript line with
        | none => exact .refl _
        | some result => exact foldTranscript_framed splice line folded
      · cases folded : splice.foldRun line with
        | none => exact .refl _
        | some result => exact foldRun_framed splice line folded

end Membership

section Rows

variable [CharacterClasses]

omit [CharacterClasses] in
theorem know_framed (splice : Splice Disk) (msgid : MsgId) :
    Framed splice.facts (splice.know msgid).facts := .refl _

omit [CharacterClasses] in
/-- Counting changes the counts and the boundary. -/
theorem countUnread_cases (conv : ConversationState) (selected live windowInactive : Bool)
    (sequence : Int) (reason : Option ChatLineReason) :
    ∃ unread mentions unreadMark,
      countUnread conv selected live windowInactive sequence reason =
        { conv with unread, mentions, unreadMark } := by
  unfold countUnread
  dsimp only
  split
  · exact ⟨_, _, _, rfl⟩
  · split
    · exact ⟨_, _, _, rfl⟩
    · split
      · split
        · exact ⟨_, _, _, rfl⟩
        · exact ⟨_, _, _, rfl⟩
      · split
        · exact ⟨_, _, _, rfl⟩
        · exact ⟨_, _, _, rfl⟩

omit [CharacterClasses] in
theorem plantMention_framed (facts : Facts Disk) (conv : ConversationState)
    (networkId : String) (arrival : ChatArrival) (reason : Option ChatLineReason) :
    Framed facts (plantMention facts conv networkId arrival reason) := by
  unfold plantMention
  split
  · exact ⟨rfl, rfl, rfl, fun _ _ => id⟩
  · exact .refl _

omit [CharacterClasses] in
theorem plantInbox_framed (facts : Facts Disk) (conv : ConversationState)
    (networkId : String) (selected : Bool) (arrival : ChatArrival)
    (reason : Option ChatLineReason) :
    Framed facts (plantInbox facts conv networkId selected arrival reason) := by
  unfold plantInbox
  split
  · exact .refl _
  · split
    · exact ⟨rfl, rfl, rfl, fun _ _ => id⟩
    · exact .refl _

/-- An arrival changes the counts and the boundary of its conversation. -/
theorem noteChatArrival_cases (facts : Facts Disk) (conv : ConversationState)
    (key : ConversationKey) (arrival : ChatArrival) :
    ∃ unread mentions unreadMark,
      (noteChatArrival facts conv key arrival).2 = { conv with unread, mentions, unreadMark } := by
  unfold noteChatArrival
  dsimp only
  split
  · exact ⟨_, _, _, rfl⟩
  · split
    · exact ⟨_, _, _, rfl⟩
    · split
      · exact ⟨_, _, _, rfl⟩
      · exact countUnread_cases ..

/-- Counting a row again changes the counts and the boundary. -/
theorem recountRow_cases (facts : Facts Disk) (key : ConversationKey)
    (conv : ConversationState) (message : Message) :
    ∃ unread mentions unreadMark,
      recountRow facts key conv message = { conv with unread, mentions, unreadMark } := by
  unfold recountRow
  dsimp only
  split
  · exact ⟨_, _, _, rfl⟩
  · split
    · exact ⟨_, _, _, rfl⟩
    · split
      · exact ⟨_, _, _, rfl⟩
      · exact countUnread_cases ..

theorem noteChatArrival_framed (facts : Facts Disk) (conv : ConversationState)
    (key : ConversationKey) (arrival : ChatArrival) :
    Framed facts (noteChatArrival facts conv key arrival).1 := by
  unfold noteChatArrival
  dsimp only
  split
  · exact .refl _
  · split
    · exact .refl _
    · split
      · exact .refl _
      · exact (plantMention_framed ..).trans (plantInbox_framed ..)

theorem noteRun_framed (event : HistoryEvent) (run : List Message) (facts : Facts Disk)
    (conv : ConversationState) : Framed facts (noteRun event run facts conv).1 := by
  refine foldl_framed Prod.fst (fun state message => ?_) run (facts, conv)
  split
  · exact .refl _
  · exact noteChatArrival_framed ..

theorem addChat_framed (splice : Splice Disk) (networkId : String) (line : ReplayLine) :
    Framed splice.facts (splice.addChat networkId line).facts :=
  (know_framed splice line.msgid).trans (claimChannelContext_framed ..)

theorem admitReplayLine_framed (splice : Splice Disk) (networkId : String) (line : ReplayLine) :
    Framed splice.facts (admitReplayLine splice networkId line).1.facts := by
  unfold admitReplayLine
  split
  · exact .refl _
  · split
    · exact .refl _
    · split
      · exact (know_framed splice line.msgid).trans (admitMembershipReplay_framed ..)
      · split
        · exact .refl _
        · exact addChat_framed ..

theorem admitReplayLines_framed (networkId : String) (splice : Splice Disk)
    (lines : List ReplayLine) :
    Framed splice.facts (admitReplayLines networkId splice lines).1.facts :=
  foldl_framed (fun state : Splice Disk × List PendingNote => state.1.facts)
    (fun state line => admitReplayLine_framed state.1 networkId line) lines (splice, [])

omit [CharacterClasses] in
theorem rememberQuery_framed (facts : Facts Disk) (conv : ConversationState)
    (event : HistoryEvent) : Framed facts (rememberQuery facts conv event) := by
  unfold rememberQuery
  split
  · exact ⟨rfl, rfl, rfl, fun _ _ => id⟩
  · exact .refl _

omit [CharacterClasses] in
theorem keepNotes_framed (event : HistoryEvent) (notes : List PendingNote) (facts : Facts Disk)
    (conv : ConversationState) : Framed facts (keepNotes event notes facts conv) := by
  unfold keepNotes
  dsimp only
  split
  · exact ⟨rfl, rfl, rfl, fun _ _ => id⟩
  · exact ⟨rfl, rfl, rfl, fun _ _ => id⟩

variable [Storage Disk]

theorem spliceHistory_framed (facts : Facts Disk) (conv : ConversationState)
    (event : HistoryEvent) (anchorUse : AnchorUse) :
    Framed facts (spliceHistory facts conv event anchorUse).1 := by
  unfold spliceHistory
  split
  · exact .refl _
  · rename_i conv start _
    dsimp only
    generalize admitted : admitReplayLines event.conversation.networkId
      { facts, conv, at_ := start } event.lines = outcome
    have lines : Framed facts outcome.1.facts := by
      rw [← admitted]
      exact admitReplayLines_framed _ { facts, conv, at_ := start } _
    refine lines.trans ((rememberQuery_framed outcome.1.facts outcome.1.conv event).trans ?_)
    split
    · exact keepNotes_framed ..
    · refine Framed.trans ?_ (keepNotes_framed ..)
      refine Framed.trans ?_ (noteRun_framed ..)
      exact placed_framed { outcome.1 with facts := rememberQuery outcome.1.facts _ event } ..

omit [Storage Disk] in
theorem hydrateLine_claimed (state : Facts Disk × ConversationState) (line : TranscriptLine) :
    Claimed state.1 (hydrateLine state line).1 := by
  unfold hydrateLine
  dsimp only
  split
  · exact .refl _
  · split
    · exact .refl _
    · exact claimChannelContext_claimed ..

theorem hydrateFromLog_claimed (facts : Facts Disk) (conv : ConversationState) :
    Claimed facts (hydrateFromLog facts conv).1 := by
  unfold hydrateFromLog
  split
  · exact .refl _
  · exact (Claimed.foldl Prod.fst hydrateLine_claimed _ (facts, conv)).trans
      (capWithPolicy_claimed ..)

theorem hydrateFromLog_framed (facts : Facts Disk) (conv : ConversationState) :
    Framed facts (hydrateFromLog facts conv).1 :=
  (hydrateFromLog_claimed facts conv).framed

end Rows

/-- What is left when a network is forgotten. -/
theorem forgetNetwork_eq (reducer : EventReducer Disk) {networkId : String}
    (named : networkId ≠ "") :
    reducer.forgetNetwork networkId =
      { conversations := reducer.conversations.filter fun key _ => key.networkId ≠ networkId
        facts := { reducer.facts with
          pendingPlayback :=
            reducer.facts.pendingPlayback.filter fun key _ => key.networkId ≠ networkId
          keptPlaybackChannel :=
            reducer.facts.keptPlaybackChannel.filter fun key => key.networkId ≠ networkId
          queryRestorePending := reducer.facts.queryRestorePending.erase networkId
          closedChannels :=
            reducer.facts.closedChannels.filter fun key => key.networkId ≠ networkId
          channelContextMsgids := fun msgid =>
            (reducer.facts.channelContextMsgids msgid).filter fun home => home.networkId ≠ networkId
          features := Function.update reducer.facts.features networkId none
          currentNicks := Function.update reducer.facts.currentNicks networkId none
          selfNicks := Function.update reducer.facts.selfNicks networkId []
          highlightWords := Function.update reducer.facts.highlightWords networkId none
          presence := Function.update reducer.facts.presence networkId none
          selfAway := reducer.facts.selfAway.erase networkId
          mutedKeys := reducer.facts.mutedKeys.filter fun key => key.networkId ≠ networkId
          selected := reducer.facts.selected.filter fun key => key.networkId ≠ networkId } } := by
  simp only [EventReducer.forgetNetwork, EventReducer.dropPendingPlayback,
    EventReducer.dropKeptPlayback, EventReducer.clearClosedNetwork,
    Facts.clearChannelContextNetwork, if_neg named]

theorem landConversation_framed (facts : Facts Disk) (existing : Option ConversationState)
    (moved : ConversationState) (newNick : String) :
    Framed facts (landConversation facts existing moved newNick).1 := by
  cases existing with
  | none => exact .refl _
  | some existing => exact capWithPolicy_framed ..

/-- A renamed conversation goes from its old key to its new one. -/
theorem moveDirect_eq (reducer : EventReducer Disk) {oldKey : ConversationKey}
    {moved : ConversationState} (found : reducer.conversations[oldKey]? = some moved)
    (newKey : ConversationKey) (newNick : String) :
    reducer.moveDirect oldKey newKey newNick =
      { conversations := (reducer.conversations.erase oldKey).insert newKey
          (landConversation (moveMute reducer.facts oldKey newKey)
            (reducer.conversations.erase oldKey)[newKey]?
            { moved with key := newKey, target := newNick } newNick).2
        facts := followSelection
          (landConversation (moveMute reducer.facts oldKey newKey)
            (reducer.conversations.erase oldKey)[newKey]?
            { moved with key := newKey, target := newNick } newNick).1 oldKey newKey } := by
  rw [EventReducer.moveDirect, found]

/-- What a fold of rows never changes of a conversation: its key, its target, its muted flag
and its channel half without the anchor. -/
structure Identity where
  key : ConversationKey
  target : String
  muted : Bool
  channel : Option ChannelState

/-- The identity of a conversation. -/
def ConversationState.identity (conv : ConversationState) : Identity :=
  { key := conv.key, target := conv.target, muted := conv.muted
    channel := conv.dropAnchor.channel }

section Identities

variable (facts : Facts Disk) (conv : ConversationState)

/-- The identity tells a channel. -/
theorem isChannel_identity : conv.isChannel = conv.identity.channel.isSome := by
  simp [ConversationState.isChannel, ConversationState.identity, ConversationState.dropAnchor,
    ConversationState.onChannel]

/-- Conversations of one identity are both channels or both direct messages. -/
theorem isChannel_congr {conv other : ConversationState} (same : conv.identity = other.identity) :
    conv.isChannel = other.isChannel := by
  rw [isChannel_identity, isChannel_identity, same]

/-- The channel half decides the identity with the three other fields. -/
theorem identity_onChannel (change : ChannelState → ChannelState)
    (kept : ∀ channel, { change channel with historyAnchor := none } =
      { channel with historyAnchor := none }) :
    (conv.onChannel change).identity = conv.identity := by
  have same : (conv.onChannel change).dropAnchor.channel = conv.dropAnchor.channel := by
    unfold ConversationState.dropAnchor ConversationState.onChannel
    dsimp only
    rw [Option.map_map]
    congr 1
    funext channel
    exact kept channel
  unfold ConversationState.identity
  rw [same]
  rfl

@[simp]
theorem moveAnchor_identity (move : Int → Int) :
    (conv.moveAnchor move).identity = conv.identity :=
  identity_onChannel conv _ fun _ => rfl

@[simp]
theorem dropAnchor_identity : conv.dropAnchor.identity = conv.identity :=
  identity_onChannel conv _ fun _ => rfl

@[simp]
theorem know_identity (msgid : MsgId) : (conv.know msgid).identity = conv.identity := by
  unfold ConversationState.know
  split
  · rfl
  · rfl

@[simp]
theorem forgetTranscriptMsgid_identity (msgid : MsgId) :
    (forgetTranscriptMsgid facts conv msgid).2.identity = conv.identity := by
  unfold forgetTranscriptMsgid
  split
  · rfl
  · rfl

/-- A fold over a list keeps an identity that its steps keep. -/
theorem foldl_identity {Item State : Type} (convOf : State → ConversationState)
    {change : State → Item → State}
    (steps : ∀ state item, (convOf (change state item)).identity = (convOf state).identity)
    (items : List Item) (state : State) :
    (convOf (items.foldl change state)).identity = (convOf state).identity := by
  induction items generalizing state with
  | nil => rfl
  | cons item rest inductionHypothesis =>
      exact (inductionHypothesis (change state item)).trans (steps state item)

@[simp]
theorem forgetRows_identity (rows : List Message) :
    (forgetRows facts conv rows).2.identity = conv.identity :=
  foldl_identity Prod.snd (fun _ _ => forgetTranscriptMsgid_identity ..) rows (facts, conv)

@[simp]
theorem capWithPolicy_identity (dropFromHead : Bool) :
    (capWithPolicy facts conv dropFromHead).2.identity = conv.identity := by
  unfold capWithPolicy
  split
  · rfl
  · split
    · dsimp only
      split
      · split
        · exact (dropAnchor_identity _).trans (forgetRows_identity ..)
        · exact forgetRows_identity ..
      · exact forgetRows_identity ..
    · exact forgetRows_identity ..

@[simp]
theorem dropLastTranscriptRow_identity :
    (dropLastTranscriptRow facts conv).2.identity = conv.identity := by
  unfold dropLastTranscriptRow
  split
  · rfl
  · exact (moveAnchor_identity ..).trans (forgetTranscriptMsgid_identity ..)

theorem takeSpliceIndex_identity : (takeSpliceIndex conv).1.identity = conv.identity := by
  unfold takeSpliceIndex
  split
  · rfl
  · split
    · rfl
    · split
      · exact dropAnchor_identity _
      · rfl

theorem spliceStart_identity (event : HistoryEvent) (anchorUse : AnchorUse) :
    (spliceStart conv event anchorUse).1.identity = conv.identity := by
  unfold spliceStart
  split
  · split
    · rfl
    · exact takeSpliceIndex_identity conv
  · rfl

theorem foldRun_identity (splice : Splice Disk) (line : ReplayMembership)
    {result : Splice Disk × MembershipReplayResult} (folded : splice.foldRun line = some result) :
    result.1.conv.identity = splice.conv.identity := by
  unfold Splice.foldRun at folded
  split at folded
  · cases folded
  · split at folded
    · cases folded
    · cases folded
      rfl
    · cases folded
      exact forgetTranscriptMsgid_identity ..

theorem foldTranscript_identity (splice : Splice Disk) (line : ReplayMembership)
    {result : Splice Disk × MembershipReplayResult}
    (folded : splice.foldTranscript line = some result) :
    result.1.conv.identity = splice.conv.identity := by
  unfold Splice.foldTranscript at folded
  split at folded
  · cases folded
  · dsimp only at folded
    split at folded
    · cases folded
    · split at folded
      · cases folded
      · cases folded
        rfl
      · cases folded
        exact (moveAnchor_identity ..).trans (forgetTranscriptMsgid_identity ..)

theorem admitMembershipReplay_identity (splice : Splice Disk) (line : ReplayMembership) :
    (admitMembershipReplay splice line).1.conv.identity = splice.conv.identity := by
  unfold admitMembershipReplay
  dsimp only
  split
  · rfl
  · split
    · rfl
    · split
      · cases folded : splice.foldTranscript line with
        | none => rfl
        | some result => exact foldTranscript_identity splice line folded
      · cases folded : splice.foldRun line with
        | none => rfl
        | some result => exact foldRun_identity splice line folded

theorem disarmTailCap_identity (event : HistoryEvent) :
    (disarmTailCap conv event).identity = conv.identity := by
  unfold disarmTailCap
  split
  · rfl
  · rfl

theorem landed_identity (splice : Splice Disk) :
    splice.landed.identity = splice.conv.identity :=
  moveAnchor_identity ..

theorem mergeRow_identity (movedMark : Option Int) (message : Message) :
    (mergeRow movedMark conv message).identity = conv.identity := by
  unfold mergeRow
  split
  · rfl
  · exact know_identity ..

variable [Storage Disk]

theorem admitLogged_identity (message : Message) :
    (admitLogged facts conv message).2.identity = conv.identity :=
  capWithPolicy_identity ..

theorem placed_identity (splice : Splice Disk) (event : HistoryEvent) (previousSize : Nat) :
    (splice.placed event previousSize).2.identity = splice.conv.identity := by
  obtain ⟨spliceEpoch, ⟨_, same⟩ | ⟨_, _, same⟩⟩ := placed_cases splice event previousSize
  · rw [same]
    exact (capWithPolicy_identity ..).trans (landed_identity splice)
  · rw [same]
    exact (capWithPolicy_identity ..).trans (landed_identity splice)

theorem appendEvent_identity (body : String) (collapsible membership : Bool) :
    (appendEvent facts conv body collapsible membership).2.identity = conv.identity := by
  rcases appendEvent_cases facts conv body collapsible membership with
    same | ⟨_, same⟩ | ⟨_, _, _, same⟩ | ⟨_, same⟩
  · rw [same]
  · rw [same]
    exact admitLogged_identity ..
  · rw [same]
    rfl
  · rw [same]
    exact dropLastTranscriptRow_identity ..

variable [CharacterClasses]

omit [Storage Disk] in
theorem noteChatArrival_identity (key : ConversationKey) (arrival : ChatArrival) :
    (noteChatArrival facts conv key arrival).2.identity = conv.identity := by
  obtain ⟨_, _, _, same⟩ := noteChatArrival_cases facts conv key arrival
  rw [same]
  rfl

omit [Storage Disk] in
theorem noteRun_identity (event : HistoryEvent) (run : List Message) :
    (noteRun event run facts conv).2.identity = conv.identity := by
  refine foldl_identity Prod.snd (fun state message => ?_) run (facts, conv)
  split
  · rfl
  · exact noteChatArrival_identity ..

omit [Storage Disk] in
theorem admitReplayLine_identity (splice : Splice Disk) (networkId : String) (line : ReplayLine) :
    (admitReplayLine splice networkId line).1.conv.identity = splice.conv.identity := by
  unfold admitReplayLine
  split
  · rfl
  · split
    · rfl
    · split
      · exact (admitMembershipReplay_identity ..).trans (know_identity ..)
      · split
        · rfl
        · exact know_identity ..

omit [Storage Disk] in
theorem admitReplayLines_identity (networkId : String) (splice : Splice Disk)
    (lines : List ReplayLine) :
    (admitReplayLines networkId splice lines).1.conv.identity = splice.conv.identity :=
  foldl_identity (fun state : Splice Disk × List PendingNote => state.1.conv)
    (fun state line => admitReplayLine_identity state.1 networkId line) lines (splice, [])

theorem spliceHistory_identity (event : HistoryEvent) (anchorUse : AnchorUse) :
    (spliceHistory facts conv event anchorUse).2.identity = conv.identity := by
  have begun := spliceStart_identity conv event anchorUse
  unfold spliceHistory
  split
  · rename_i started stops
    rw [stops] at begun
    exact begun
  · rename_i started point starts
    rw [starts] at begun
    have lines := admitReplayLines_identity event.conversation.networkId
      { facts, conv := started, at_ := point } event.lines
    refine Eq.trans ?_ (lines.trans begun)
    dsimp only
    split
    · exact disarmTailCap_identity ..
    · exact (noteRun_identity ..).trans (placed_identity ..)

omit [Storage Disk] in
theorem hydrateLine_identity (state : Facts Disk × ConversationState) (line : TranscriptLine) :
    (hydrateLine state line).2.identity = state.2.identity := by
  unfold hydrateLine
  dsimp only
  split
  · rfl
  · split
    · rfl
    · exact know_identity ..

theorem hydrateFromLog_identity : (hydrateFromLog facts conv).2.identity = conv.identity := by
  unfold hydrateFromLog
  split
  · rfl
  · exact (capWithPolicy_identity ..).trans
      (foldl_identity Prod.snd hydrateLine_identity _ (facts, conv))

end Identities

end Omairc.Irc.Reducer
