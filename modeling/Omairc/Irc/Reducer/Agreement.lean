import Omairc.Irc.Reducer.Standing

/-!
# Keys and the case mapping

Conversations, members and held batches are filed under the folded spellings of their
names. As long as the mapping of a network folds the names in use the way it did, every
call keeps it so.
-/

namespace Omairc.Irc.Reducer

open Omairc.Text

section Rules

variable {Disk : Type}

/-- The rules under which a conversation is opened under the folded spelling of its
target, on a network that may host one. -/
def naming (hosts : String → Prop) (permits : Act → Prop) : Rules Disk where
  opens mapping key target := mapping.normalize target = key.normalizedTarget ∧ hosts key.networkId
  permits := permits

theorem naming_lenient (hosts : String → Prop) (permits : Act → Prop) :
    (naming hosts permits : Rules Disk).Lenient where
  splices _ _ _ _ _ := trivial
  lands _ _ := trivial
  moves _ _ _ _ _ := trivial

/-- The acts that leave the features of every network alone. -/
def Settled (permits : Act → Prop) : Prop :=
  ∀ (networkId : String) (features : Isupport), ¬permits (.advertises networkId features)

/-- Every member of a channel is listed under the folded spelling of its nick. -/
def Listed (facts : Facts Disk) (conv : ConversationState) : Prop :=
  ∀ (channel : ChannelState) (nick : String) (member : MemberState),
    conv.channel = some channel → channel.members[nick]? = some member →
    facts.normalize conv.key.networkId member.displayNick = nick

/-- A channel half shows its members apart from its anchor. -/
theorem dropAnchor_members {conv other : ConversationState}
    (same : other.dropAnchor.channel = conv.dropAnchor.channel) {channel : ChannelState}
    (own : other.channel = some channel) :
    ∃ before, conv.channel = some before ∧ before.members = channel.members := by
  unfold ConversationState.dropAnchor ConversationState.onChannel at same
  dsimp only at same
  rw [own, Option.map_some] at same
  obtain ⟨before, there, half⟩ := Option.map_eq_some_iff.mp same.symm
  exact ⟨before, there, (congrArg ChannelState.members half :)⟩

variable {hosts : String → Prop} {permits : Act → Prop}

theorem named_standing (settled : Settled permits) :
    Standing (naming hosts permits : Rules Disk) Named where
  mapped same named := by
    rw [Named, Facts.normalize, same]
    exact named
  alike named key target channel := by
    rw [Named, key, target]
    exact named
  opened := And.left
  fresh named := named
  roster _ named := named
  spelled named _ := named
  direct _ named := named
  settled := settled

theorem listed_standing (settled : Settled permits) :
    Standing (naming hosts permits : Rules Disk) Listed where
  mapped same listed channel nick member own found := by
    rw [Facts.normalize, same]
    exact listed channel nick member own found
  alike listed key target half channel nick member own found := by
    obtain ⟨before, there, members⟩ := dropAnchor_members half own
    rw [key]
    exact listed before nick member there (members ▸ found)
  opened := And.left
  fresh named channel nick member own found := by
    unfold freshConversation at own
    dsimp only at own
    split at own
    · cases own
      rw [Std.TreeMap.getElem?_emptyc] at found
      cases found
    · cases own
  roster kept listed channel nick member own found := by
    obtain ⟨before, there, rfl⟩ := Option.map_eq_some_iff.mp own
    rcases kept before there nick member found with ⟨old, present, same⟩ | entered
    · rw [← same]
      exact listed before nick old there present
    · exact entered
  spelled _ listed := listed
  direct plain _ channel nick member own := by
    rw [ConversationState.isChannel, own] at plain
    cases plain
  settled := settled

end Rules

section Agreement

variable {Disk : Type} [Platform] [CharacterClasses] [Storage Disk] {hosts : String → Prop}
  {permits : Act → Prop}

/-- Every conversation and every held batch is filed under the folded spelling of its
target. -/
structure Addressed (reducer : EventReducer Disk) : Prop where
  keyed : Keyed reducer
  held : ∀ (key : ConversationKey) (event : HistoryEvent),
    reducer.facts.pendingPlayback[key]? = some event → event.kind ≠ .chat ∧
      reducer.facts.normalize key.networkId event.target = key.normalizedTarget
  named : Everywhere Named reducer

/-- Every name a reducer files something under is the folded spelling of what it shows. -/
structure Agrees (reducer : EventReducer Disk) : Prop extends Addressed reducer where
  listed : Everywhere Listed reducer

/-- Conversations are open, and batches are held, on networks that may host them. -/
structure Hosted (hosts : String → Prop) (reducer : EventReducer Disk) : Prop where
  rows : ∀ (key : ConversationKey) (conv : ConversationState),
    reducer.conversations[key]? = some conv → hosts key.networkId
  held : ∀ (key : ConversationKey) (event : HistoryEvent),
    reducer.facts.pendingPlayback[key]? = some event → hosts key.networkId

omit [Platform] [CharacterClasses] [Storage Disk] in
/-- What is held may open the conversation it is held for. -/
theorem Addressed.holds {reducer : EventReducer Disk} (addressed : Addressed reducer)
    (hosted : Hosted hosts reducer) : Held (naming hosts permits) reducer.facts := by
  intro key event found
  obtain ⟨replayed, named⟩ := addressed.held key event found
  exact ⟨replayed, named, hosted.held key event found⟩

/-- A move that leaves the features alone keeps the mapping of a network, or forgets the
network and all that is held for it. -/
theorem Move.caseMapping {rules : Rules Disk} {reducer next : EventReducer Disk}
    (move : Move rules reducer next) (settled : Settled rules.permits) (networkId : String) :
    next.facts.caseMapping networkId = reducer.facts.caseMapping networkId ∨
      rules.permits (.forgets networkId) ∧ ∀ (key : ConversationKey) (event : HistoryEvent),
        next.facts.pendingPlayback[key]? = some event → key.networkId ≠ networkId := by
  cases move with
  | facts same => exact .inl (same.caseMapping networkId)
  | hold => exact .inl rfl
  | touch found touches => exact .inl (touches.facts_framed.caseMapping networkId)
  | create => exact .inl ((hydrateFromLog_framed ..).caseMapping networkId)
  | remove key =>
      refine .inl ?_
      unfold EventReducer.removeConversation
      dsimp only
      split
      · rfl
      · rfl
  | forget forgotten permitted =>
      by_cases blank : forgotten = ""
      · rw [EventReducer.forgetNetwork, if_pos blank]
        exact .inl rfl
      · rw [forgetNetwork_eq reducer blank]
        by_cases same : networkId = forgotten
        · refine .inr ⟨same ▸ permitted, fun key event found => ?_⟩
          rw [same]
          exact of_decide_eq_true (filter_found found).1
        · refine .inl ?_
          unfold Facts.caseMapping Facts.isupport
          dsimp only
          rw [Function.update_of_ne same]
  | rename newNick caption =>
      exact .inl ((moveDirect_caseMapping newNick networkId).trans
        ((retarget_framed ..).caseMapping networkId))
  | features networkId features permitted => exact (settled networkId features permitted).elim
  | mute key muted => exact .inl (setMuted_caseMapping reducer key muted networkId)
  | select => exact .inl rfl

/-- A chain of moves that leaves the features alone and forgets no network keeps the
mappings. -/
theorem Chain.caseMapping {rules : Rules Disk} {reducer next : EventReducer Disk}
    (chain : Chain rules reducer next) (settled : Settled rules.permits)
    (keeps : ∀ networkId, ¬rules.permits (.forgets networkId)) (networkId : String) :
    next.facts.caseMapping networkId = reducer.facts.caseMapping networkId := by
  induction chain with
  | refl => rfl
  | tail prior move inductionHypothesis =>
      rcases move.caseMapping settled networkId with same | ⟨forgets, _⟩
      · exact same.trans inductionHypothesis
      · exact (keeps networkId forgets).elim

/-- A move opens and holds on hosting networks only. -/
theorem Hosted.move {reducer next : EventReducer Disk} (hosted : Hosted hosts reducer)
    (move : Move (naming hosts permits) reducer next) : Hosted hosts next where
  held key event found := by
    rcases move.pending key event found with old | made
    · exact hosted.held key event old
    · exact made.2.2
  rows := by
    cases move with
    | facts => exact hosted.rows
    | hold => exact hosted.rows
    | touch found =>
        intro other conv listed
        rcases insert_found listed with ⟨rfl, rfl⟩ | ⟨_, before⟩
        · exact hosted.rows other _ found
        · exact hosted.rows other conv before
    | create displayTarget missing named =>
        intro other conv listed
        rcases insert_found listed with ⟨rfl, rfl⟩ | ⟨_, before⟩
        · exact named.2
        · exact hosted.rows other conv before
    | remove key => exact fun other conv listed => hosted.rows other conv (erase_found listed).2
    | forget networkId =>
        by_cases named : networkId = ""
        · rw [EventReducer.forgetNetwork, if_pos named]
          exact hosted.rows
        · rw [forgetNetwork_eq reducer named]
          exact fun other conv listed => hosted.rows other conv (filter_found listed).2
    | @rename oldKey conv newNick caption found =>
        have own : hosts oldKey.networkId := hosted.rows oldKey conv found
        unfold EventReducer.onConversation
        rw [found]
        dsimp only
        generalize appendEvent reducer.facts { conv with target := newNick } caption true true =
          outcome
        generalize renamed : reducer.conversationKey oldKey.networkId newNick = newKey
        have inside : hosts newKey.networkId := renamed ▸ own
        intro other row listed
        rw [moveDirect_eq _ Std.TreeMap.getElem?_insert_self] at listed
        rcases insert_found listed with ⟨rfl, _⟩ | ⟨_, before⟩
        · exact inside
        · rcases insert_found (erase_found before).2 with ⟨rfl, _⟩ | ⟨_, before⟩
          · exact own
          · exact hosted.rows other row before
    | features => exact hosted.rows
    | mute key muted =>
        intro other conv listed
        rcases setMuted_found reducer key muted listed with before | ⟨before, there, _, _⟩
        · exact hosted.rows other conv before
        · exact hosted.rows other before there
    | select => exact hosted.rows

/-- A chain of moves opens and holds on hosting networks only. -/
theorem Hosted.chain {reducer next : EventReducer Disk} (hosted : Hosted hosts reducer)
    (chain : Chain (naming hosts permits) reducer next) : Hosted hosts next := by
  induction chain with
  | refl => exact hosted
  | tail prior move inductionHypothesis => exact inductionHypothesis.move move

omit [Platform] [CharacterClasses] [Storage Disk] in
/-- Every network may host when all of them may. -/
theorem Hosted.everywhere (reducer : EventReducer Disk) : Hosted (fun _ => True) reducer :=
  ⟨fun _ _ _ => trivial, fun _ _ _ => trivial⟩

section Chains

variable {reducer next : EventReducer Disk}

/-- A chain of moves that leaves the features alone keeps what is addressed so. -/
theorem Addressed.chain (addressed : Addressed reducer) (settled : Settled permits)
    (chain : Chain (naming hosts permits) reducer next) : Addressed next where
  keyed := Chain.keyed chain addressed.keyed
  held := by
    induction chain with
    | refl => exact addressed.held
    | @tail before after prior move inductionHypothesis =>
        intro key event found
        have mapping : after.facts.caseMapping key.networkId =
            before.facts.caseMapping key.networkId := by
          rcases move.caseMapping settled key.networkId with same | ⟨_, apart⟩
          · exact same
          · exact absurd rfl (apart key event found)
        rw [Facts.normalize, mapping]
        rcases move.pending key event found with old | made
        · exact inductionHypothesis key event old
        · exact ⟨made.1, made.2.1⟩
  named := (named_standing settled).chain chain addressed.keyed addressed.named

/-- A chain of moves that leaves the features alone keeps the agreement. -/
theorem Agrees.chain (agrees : Agrees reducer) (settled : Settled permits)
    (chain : Chain (naming hosts permits) reducer next) : Agrees next where
  toAddressed := agrees.toAddressed.chain settled chain
  listed := (listed_standing settled).chain chain agrees.keyed agrees.listed

end Chains

/-- A mapping folds the targets of the conversations of a network as the one in force
does. -/
def TargetsUnmoved (reducer : EventReducer Disk) (networkId : String)
    (mapping : IrcCaseMapping) : Prop :=
  ∀ (key : ConversationKey) (conv : ConversationState),
    reducer.conversations[key]? = some conv → key.networkId = networkId →
    mapping.normalize conv.target = reducer.facts.normalize networkId conv.target

/-- A mapping folds the targets of the held batches of a network as the one in force does. -/
def HeldUnmoved (reducer : EventReducer Disk) (networkId : String)
    (mapping : IrcCaseMapping) : Prop :=
  ∀ (key : ConversationKey) (event : HistoryEvent),
    reducer.facts.pendingPlayback[key]? = some event → key.networkId = networkId →
    mapping.normalize event.target = reducer.facts.normalize networkId event.target

/-- A mapping folds the nicks of the members of a network as the one in force does. -/
def MembersUnmoved (reducer : EventReducer Disk) (networkId : String)
    (mapping : IrcCaseMapping) : Prop :=
  ∀ (key : ConversationKey) (conv : ConversationState) (channel : ChannelState)
    (nick : String) (member : MemberState), reducer.conversations[key]? = some conv →
    key.networkId = networkId → conv.channel = some channel →
    channel.members[nick]? = some member →
    mapping.normalize member.displayNick = reducer.facts.normalize networkId member.displayNick

/-- The acts that leave the features alone. -/
def Act.featureless : Act → Prop
  | .advertises _ _ => False
  | _ => True

omit [Platform] [CharacterClasses] in
theorem featureless_settled : Settled Act.featureless := fun _ _ => id

section Features

omit [Platform] [CharacterClasses] [Storage Disk]

/-- The features of a network replaced. -/
def advertise (reducer : EventReducer Disk) (networkId : String) (features : Isupport) :
    EventReducer Disk :=
  { reducer with
    facts.features := Function.update reducer.facts.features networkId (some features) }

/-- New features change the mapping of their own network. -/
theorem advertise_caseMapping (reducer : EventReducer Disk) (networkId : String)
    (features : Isupport) (other : String) :
    (advertise reducer networkId features).facts.caseMapping other =
      if other = networkId then features.features.caseMapping
      else reducer.facts.caseMapping other := by
  unfold advertise Facts.caseMapping Facts.isupport
  dsimp only
  by_cases same : other = networkId
  · rw [same, Function.update_self, if_pos rfl]
    rfl
  · rw [Function.update_of_ne same, if_neg same]

variable {reducer : EventReducer Disk} {networkId : String} {features : Isupport}

/-- New features that fold the targets alike keep every conversation named. -/
theorem Addressed.advertise_named (addressed : Addressed reducer)
    (unmoved : TargetsUnmoved reducer networkId features.features.caseMapping) :
    Everywhere Named (advertise reducer networkId features) := by
  intro key conv found
  have named : Named reducer.facts conv := addressed.named key conv found
  rw [Named, Facts.normalize, advertise_caseMapping]
  split
  · rename_i own
    rw [addressed.keyed key conv found] at own
    rw [unmoved key conv found own]
    rw [Named, addressed.keyed key conv found, own] at named
    rw [named, addressed.keyed key conv found]
  · exact named

/-- New features that fold the names in use alike keep what is addressed so. -/
theorem Addressed.advertise (addressed : Addressed reducer)
    (unmoved : TargetsUnmoved reducer networkId features.features.caseMapping)
    (holding : HeldUnmoved reducer networkId features.features.caseMapping) :
    Addressed (advertise reducer networkId features) where
  keyed := addressed.keyed
  named := addressed.advertise_named unmoved
  held := by
    intro key event found
    obtain ⟨replayed, named⟩ := addressed.held key event found
    refine ⟨replayed, ?_⟩
    rw [Facts.normalize, advertise_caseMapping]
    split
    · rename_i own
      refine (holding key event found own).trans ?_
      rw [← own]
      exact named
    · exact named

/-- New features that fold the names in use alike keep the agreement. -/
theorem Agrees.advertise (agrees : Agrees reducer)
    (unmoved : TargetsUnmoved reducer networkId features.features.caseMapping)
    (holding : HeldUnmoved reducer networkId features.features.caseMapping)
    (members : MembersUnmoved reducer networkId features.features.caseMapping) :
    Agrees (Reducer.advertise reducer networkId features) where
  toAddressed := agrees.toAddressed.advertise unmoved holding
  listed := by
    intro key conv found channel nick member own listed
    have named := agrees.listed key conv found channel nick member own listed
    rw [Facts.normalize, advertise_caseMapping]
    split
    · rename_i inside
      rw [inside] at named
      rw [agrees.keyed key conv found] at inside
      exact (members key conv channel nick member found inside own listed).trans named
    · exact named

end Features

section Welcome

variable {reducer : EventReducer Disk} {networkId : String}

omit [Platform] [Storage Disk] in
/-- A welcome changes no more facts than the ones of its network. -/
theorem reduceWelcome_framed (networkId currentNick : String) :
    Framed reducer.facts (reducer.reduceWelcome networkId currentNick).facts := by
  have begun := (dropped_framed reducer networkId).trans
    (welcomeFacts_framed _ networkId currentNick)
  unfold EventReducer.reduceWelcome
  dsimp only
  generalize welcomeFacts _ networkId currentNick = facts at begun ⊢
  have swept := @sweepNetwork_framed _
    { (((reducer.dropPendingPlayback networkId).dropKeptPlayback networkId).clearClosedNetwork
        networkId) with facts } networkId (fun facts conv => (facts, welcomeState conv))
    fun facts _ => .refl facts
  exact begun.trans (swept.trans (refreshMentions_framed _ networkId))

omit [Platform] [Storage Disk] in
/-- A welcome keeps no batch held for its network, and holds no new one. -/
theorem reduceWelcome_held {currentNick : String} (named : networkId ≠ "")
    {key : ConversationKey} {event : HistoryEvent}
    (found : (reducer.reduceWelcome networkId currentNick).facts.pendingPlayback[key]? =
      some event) :
    key.networkId ≠ networkId ∧ reducer.facts.pendingPlayback[key]? = some event := by
  have dropped : (((reducer.dropPendingPlayback networkId).dropKeptPlayback
      networkId).clearClosedNetwork networkId).facts.pendingPlayback =
      reducer.facts.pendingPlayback.filter fun key _ => key.networkId ≠ networkId := by
    simp only [EventReducer.clearClosedNetwork, EventReducer.dropKeptPlayback,
      EventReducer.dropPendingPlayback, if_neg named]
  unfold EventReducer.reduceWelcome at found
  dsimp only at found
  have early := (refreshMentions_framed _ networkId).held key event found
  have early := (sweepNetwork_framed _ fun facts _ => .refl facts).held key event early
  have early := (welcomeFacts_framed _ networkId currentNick).held key event early
  rw [dropped] at early
  obtain ⟨apart, before⟩ := filter_found early
  exact ⟨of_decide_eq_true apart, before⟩

omit [Platform] [Storage Disk] in
/-- A welcome leaves nobody on the channels of its network. -/
theorem reduceWelcome_members {currentNick : String} {key : ConversationKey}
    {conv : ConversationState}
    (found : (reducer.reduceWelcome networkId currentNick).conversations[key]? = some conv)
    (inside : conv.key.networkId = networkId) {channel : ChannelState}
    (own : conv.channel = some channel) : channel.members = ∅ := by
  unfold EventReducer.reduceWelcome at found
  dsimp only at found
  obtain ⟨reset, there, flagged⟩ := sweepNetwork_found found
  have half : reset.key = conv.key ∧ reset.channel = conv.channel := by
    rcases flagged with ⟨_, facts, rfl⟩ | ⟨_, rfl⟩
    · exact ⟨rfl, rfl⟩
    · exact ⟨rfl, rfl⟩
  rw [← half.1] at inside
  rw [← half.2] at own
  obtain ⟨before, _, left⟩ := sweepNetwork_found there
  rcases left with ⟨_, facts, rfl⟩ | ⟨outside, rfl⟩
  · obtain ⟨joined, _, rfl⟩ := Option.map_eq_some_iff.mp own
    rfl
  · exact absurd inside outside

/-- A welcome is a chain of moves. -/
theorem welcome_chain {rules : Rules Disk} (networkId currentNick : String) (now : Instant) :
    Chain rules reducer (reducer.apply (.welcome networkId currentNick) now) := by
  have forgotten : Chain rules reducer reducer.forgetArrivals :=
    facts_chain ⟨rfl, rfl, rfl, fun _ _ => id⟩
  exact forgotten.trans (reduceWelcome_chain networkId currentNick)

/-- A welcome holds no new batch, and none for its network. -/
theorem welcome_held {currentNick : String} {now : Instant} (named : networkId ≠ "")
    {key : ConversationKey} {event : HistoryEvent}
    (found : (reducer.apply (.welcome networkId currentNick) now).facts.pendingPlayback[key]? =
      some event) :
    key.networkId ≠ networkId ∧ reducer.facts.pendingPlayback[key]? = some event := by
  rw [EventReducer.apply, EventReducer.reduce] at found
  obtain ⟨apart, before⟩ := reduceWelcome_held named found
  exact ⟨apart, before⟩

/-- A welcome that starts over with features that fold the targets alike keeps what is
addressed so. -/
theorem Addressed.welcome (addressed : Addressed reducer) (named : networkId ≠ "")
    {features : Isupport}
    (unmoved : TargetsUnmoved reducer networkId features.features.caseMapping)
    (currentNick : String) (now : Instant) :
    Addressed ((reducer.setServerFeatures networkId features).apply
      (.welcome networkId currentNick) now) := by
  have targets := addressed.advertise_named unmoved
  have refreshed : Chain (naming (fun _ => True) Act.featureless)
      (Reducer.advertise reducer networkId features)
      (reducer.setServerFeatures networkId features) := refreshMentions_chain networkId
  have chain := refreshed.trans (welcome_chain networkId currentNick now)
  have mapping : ∀ other, ((reducer.setServerFeatures networkId features).apply
      (.welcome networkId currentNick) now).facts.caseMapping other =
      (Reducer.advertise reducer networkId features).facts.caseMapping other := by
    intro other
    have reset : Framed (reducer.setServerFeatures networkId features).facts
        (reducer.setServerFeatures networkId features).forgetArrivals.facts :=
      ⟨rfl, rfl, rfl, fun _ _ => id⟩
    exact ((refreshMentions_framed (Reducer.advertise reducer networkId features) networkId).trans
      (reset.trans (reduceWelcome_framed networkId currentNick))).caseMapping other
  refine ⟨Chain.keyed chain addressed.keyed, ?_,
    (named_standing featureless_settled).chain chain addressed.keyed targets⟩
  intro key event found
  obtain ⟨apart, before⟩ := welcome_held named found
  have early : reducer.facts.pendingPlayback[key]? = some event :=
    (refreshMentions_framed (Reducer.advertise reducer networkId features) networkId).held key event
      before
  rw [Facts.normalize, mapping, advertise_caseMapping, if_neg apart]
  exact addressed.held key event early

/-- New features that fold the names in use alike keep the agreement, and so does the sweep
over the mentions. -/
theorem Agrees.setServerFeatures (agrees : Agrees reducer) {features : Isupport}
    (unmoved : TargetsUnmoved reducer networkId features.features.caseMapping)
    (holding : HeldUnmoved reducer networkId features.features.caseMapping)
    (members : MembersUnmoved reducer networkId features.features.caseMapping) :
    Agrees (reducer.setServerFeatures networkId features) := by
  have refreshed : Chain (naming (fun _ => True) Act.featureless)
      (Reducer.advertise reducer networkId features)
      (reducer.setServerFeatures networkId features) := refreshMentions_chain networkId
  exact (agrees.advertise unmoved holding members).chain featureless_settled refreshed

/-- The members of a channel of another network are listed under their folded nicks. -/
def ListedBeyond (networkId : String) (facts : Facts Disk) (conv : ConversationState) : Prop :=
  conv.key.networkId = networkId ∨ Listed facts conv

omit [Platform] [CharacterClasses] [Storage Disk] in
theorem listedBeyond_standing (settled : Settled permits) (networkId : String) :
    Standing (naming hosts permits : Rules Disk) (ListedBeyond networkId) where
  mapped same := Or.imp id ((@listed_standing _ hosts _ settled).mapped same)
  alike beyond key target half :=
    beyond.imp (fun inside => by rw [key]; exact inside) fun listed =>
      (@listed_standing _ hosts _ settled).alike listed key target half
  opened := And.left
  fresh named := .inr ((@listed_standing _ hosts _ settled).fresh named)
  roster kept := Or.imp id ((@listed_standing _ hosts _ settled).roster kept)
  spelled named := Or.imp id ((@listed_standing _ hosts _ settled).spelled named)
  direct plain named := .inr ((@listed_standing _ hosts _ settled).direct plain named)
  settled := settled

/-- A welcome that starts over with features that fold the targets alike keeps the
agreement. -/
theorem Agrees.welcome (agrees : Agrees reducer) (named : networkId ≠ "") {features : Isupport}
    (unmoved : TargetsUnmoved reducer networkId features.features.caseMapping)
    (currentNick : String) (now : Instant) :
    Agrees ((reducer.setServerFeatures networkId features).apply (.welcome networkId currentNick)
      now) where
  toAddressed := agrees.toAddressed.welcome named unmoved currentNick now
  listed := by
    have beyond : Everywhere (ListedBeyond networkId)
        (Reducer.advertise reducer networkId features) := by
      intro key conv found
      by_cases inside : conv.key.networkId = networkId
      · exact .inl inside
      · refine .inr ((@listed_standing _ (fun _ => True) _ featureless_settled).mapped ?_
          (agrees.listed key conv found))
        rw [advertise_caseMapping, if_neg inside]
    have refreshed : Chain (naming (fun _ => True) Act.featureless)
        (Reducer.advertise reducer networkId features)
        (reducer.setServerFeatures networkId features) := refreshMentions_chain networkId
    have chain := refreshed.trans (welcome_chain networkId currentNick now)
    intro key conv found channel nick member own listed
    rcases (listedBeyond_standing featureless_settled networkId).chain chain agrees.keyed beyond key
      conv found with inside | outside
    · rw [reduceWelcome_members found inside own, Std.TreeMap.getElem?_emptyc] at listed
      cases listed
    · exact outside channel nick member own listed

end Welcome

end Agreement

end Omairc.Irc.Reducer
