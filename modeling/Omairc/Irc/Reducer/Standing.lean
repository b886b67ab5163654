import Omairc.Irc.Reducer.TranscriptRuns

/-!
# Standing laws of conversations

A law about the key, the target and the channel half of a conversation, read under the
mapping of its network, need be checked on four changes alone: a fresh row, a change of the
members, a new spelling of the target, and a direct message that takes a new key. Every
chain of moves that leaves the features alone then keeps it for every conversation.
-/

namespace Omairc.Irc.Reducer

open Omairc.Text

variable {Disk : Type} [Platform] [CharacterClasses] [Storage Disk] {rules : Rules Disk}

/-- A conversation is filed under the folded spelling of its target. -/
def Named (facts : Facts Disk) (conv : ConversationState) : Prop :=
  facts.normalize conv.key.networkId conv.target = conv.key.normalizedTarget

/-- A law about where a conversation stands, which the moves of the reducer keep. -/
structure Standing (rules : Rules Disk) (law : Facts Disk → ConversationState → Prop) : Prop where
  /-- The law reads the mapping of the network of the conversation alone. -/
  mapped : ∀ {facts changed : Facts Disk} {conv : ConversationState},
    changed.caseMapping conv.key.networkId = facts.caseMapping conv.key.networkId →
    law facts conv → law changed conv
  /-- The law reads the key, the target and the channel half alone. -/
  alike : ∀ {facts : Facts Disk} {conv other : ConversationState}, law facts conv →
    other.key = conv.key → other.target = conv.target →
    other.dropAnchor.channel = conv.dropAnchor.channel → law facts other
  opened : ∀ {mapping : IrcCaseMapping} {key : ConversationKey} {target : String},
    rules.opens mapping key target → mapping.normalize target = key.normalizedTarget
  fresh : ∀ {facts : Facts Disk} {key : ConversationKey} {displayTarget : String},
    facts.normalize key.networkId displayTarget = key.normalizedTarget →
    law facts (freshConversation facts key displayTarget)
  roster : ∀ {facts : Facts Disk} {conv : ConversationState} {change : ChannelState → ChannelState},
    (∀ channel, conv.channel = some channel →
      Rostered facts conv.key.networkId channel.members (change channel).members) →
    law facts conv → law facts (conv.onChannel change)
  spelled : ∀ {facts : Facts Disk} {conv : ConversationState} {target : String},
    facts.normalize conv.key.networkId target = conv.key.normalizedTarget →
    law facts conv → law facts { conv with target }
  direct : ∀ {facts : Facts Disk} {conv : ConversationState}, conv.isChannel = false →
    Named facts conv → law facts conv
  /-- The features of a network stay what they are. -/
  settled : ∀ (networkId : String) (features : Isupport),
    ¬rules.permits (.advertises networkId features)

section Mappings

omit [Platform] [CharacterClasses] [Storage Disk]

/-- Muting keeps the mappings of the networks. -/
theorem setMuted_caseMapping (reducer : EventReducer Disk) (key : ConversationKey) (muted : Bool)
    (networkId : String) :
    (reducer.setMuted key muted).facts.caseMapping networkId =
      reducer.facts.caseMapping networkId := by
  unfold EventReducer.setMuted EventReducer.modify EventReducer.onConversation
  split
  · rfl
  · dsimp only
    split
    · rfl
    · rfl

/-- Moving a mute keeps the mappings of the networks. -/
theorem moveMute_caseMapping (facts : Facts Disk) (oldKey newKey : ConversationKey)
    (networkId : String) :
    (moveMute facts oldKey newKey).caseMapping networkId = facts.caseMapping networkId := by
  unfold moveMute
  split
  · rfl
  · rfl

/-- A renamed conversation keeps the mappings of the networks. -/
theorem moveDirect_caseMapping {reducer : EventReducer Disk} {oldKey newKey : ConversationKey}
    (newNick networkId : String) :
    (reducer.moveDirect oldKey newKey newNick).facts.caseMapping networkId =
      reducer.facts.caseMapping networkId := by
  unfold EventReducer.moveDirect
  split
  · rfl
  · dsimp only
    have landed := landConversation_framed (moveMute reducer.facts oldKey newKey)
    unfold followSelection
    split
    · exact ((landed _ _ _).caseMapping networkId).trans (moveMute_caseMapping ..)
    · exact ((landed _ _ _).caseMapping networkId).trans (moveMute_caseMapping ..)

end Mappings

/-- Every conversation obeys a law. -/
def Everywhere (law : Facts Disk → ConversationState → Prop) (reducer : EventReducer Disk) :
    Prop :=
  ∀ (key : ConversationKey) (conv : ConversationState),
    reducer.conversations[key]? = some conv → law reducer.facts conv

namespace Standing

variable {law : Facts Disk → ConversationState → Prop} {facts changed : Facts Disk}
  {conv touched : ConversationState}

omit [Platform] [CharacterClasses] [Storage Disk] in
theorem identical (standing : Standing rules law) (same : touched.identity = conv.identity)
    (holds : law facts conv) : law facts touched :=
  standing.alike holds (congrArg Identity.key same :) (congrArg Identity.target same :)
    (congrArg Identity.channel same :)

omit [Platform] [CharacterClasses] [Storage Disk] in
theorem framed (standing : Standing rules law) (same : Framed facts changed)
    (holds : law facts conv) : law changed conv :=
  standing.mapped (same.caseMapping conv.key.networkId) holds

omit [Platform] in
/-- A touch keeps the law. -/
theorem touch (standing : Standing rules law) (touch : Touch rules facts conv touched)
    (holds : law facts conv) : law facts touched := by
  cases touch with
  | counted => exact standing.alike holds rfl rfl rfl
  | flagged => exact standing.alike holds rfl rfl rfl
  | roster change kept => exact standing.roster (fun channel own => (kept channel own).2) holds
  | unanchored => exact standing.identical (dropAnchor_identity conv) holds
  | anchored =>
      exact standing.identical (identity_onChannel conv _ fun _ => rfl) holds
  | admitted row =>
      exact standing.identical
        ((capWithPolicy_identity facts (admitMessage (conv.know row.msgid) row) true).trans
          (know_identity conv row.msgid)) holds
  | rewritten => exact standing.alike holds rfl rfl rfl
  | dropped => exact standing.identical (dropLastTranscriptRow_identity facts conv) holds
  | spliced event anchorUse =>
      exact standing.identical (spliceHistory_identity facts conv event anchorUse) holds
  | cleared =>
      refine standing.identical (dropAnchor_identity _) ?_
      exact standing.alike holds rfl rfl rfl
  | retargeted target named => exact standing.spelled (standing.opened named) holds

omit [Platform] in
/-- A chain of touches keeps the law. -/
theorem touches (standing : Standing rules law)
    (touches : Touches rules facts conv changed touched) (holds : law facts conv) :
    law changed touched := by
  induction touches with
  | refl => exact holds
  | framed prior same inductionHypothesis => exact standing.framed same inductionHypothesis
  | touch prior touch inductionHypothesis => exact standing.touch touch inductionHypothesis

omit [Platform] [CharacterClasses] [Storage Disk] in
theorem insert (standing : Standing rules law) {reducer : EventReducer Disk}
    (everywhere : Everywhere law reducer) {key : ConversationKey} (own : law changed conv)
    (same : Framed reducer.facts changed) :
    Everywhere law
      { facts := changed, conversations := reducer.conversations.insert key conv } := by
  intro other found listed
  rcases insert_found listed with ⟨_, rfl⟩ | ⟨_, before⟩
  · exact own
  · exact standing.framed same (everywhere other found before)

omit [Platform] [CharacterClasses] [Storage Disk] in
/-- A direct message that takes the folded spelling of its new nick keeps the law. -/
theorem moveDirect (standing : Standing rules law) {reducer : EventReducer Disk}
    {oldKey newKey : ConversationKey}
    (others : ∀ (key : ConversationKey) (conv : ConversationState), key ≠ oldKey →
      reducer.conversations[key]? = some conv → law reducer.facts conv)
    (keyed : Keyed reducer)
    {newNick : String} (renamed : newKey = reducer.conversationKey oldKey.networkId newNick)
    {moved : ConversationState} (found : reducer.conversations[oldKey]? = some moved)
    (direct : moved.isChannel = false) :
    Everywhere law (reducer.moveDirect oldKey newKey newNick) := by
  intro other conv listed
  have still : ∀ networkId, (reducer.moveDirect oldKey newKey newNick).facts.caseMapping networkId =
      reducer.facts.caseMapping networkId := moveDirect_caseMapping newNick
  refine standing.mapped (still _) ?_
  rw [moveDirect_eq reducer found] at listed
  have named : Named reducer.facts { moved with key := newKey, target := newNick } := by
    rw [renamed]
    rfl
  rcases insert_found listed with ⟨rfl, rfl⟩ | ⟨_, before⟩
  · cases there : (reducer.conversations.erase oldKey)[other]? with
    | none => exact standing.direct direct named
    | some existing =>
        obtain ⟨apart, listed⟩ := erase_found there
        have own : existing.key = other := keyed other existing listed
        have obeyed : law reducer.facts { existing with target := newNick } := by
          refine standing.spelled ?_ (others other existing apart listed)
          rw [own]
          exact named
        have same := (capWithPolicy_identity (moveMute reducer.facts oldKey other)
          ((({ moved with key := other, target := newNick } : ConversationState).messages).foldl
            (mergeRow moved.unreadMark) existing) true).trans
          (foldl_identity id (fun conv message => mergeRow_identity conv moved.unreadMark message)
            moved.messages existing)
        exact standing.alike obeyed (congrArg Identity.key same :) rfl
          (congrArg Identity.channel same :)
  · obtain ⟨apart, listed⟩ := erase_found before
    exact others other conv apart listed

/-- A move keeps the law of every conversation. -/
theorem move (standing : Standing rules law) {reducer next : EventReducer Disk}
    (move : Move rules reducer next) (keyed : Keyed reducer)
    (everywhere : Everywhere law reducer) : Everywhere law next := by
  cases move with
  | facts same => exact fun key conv found => standing.framed same (everywhere key conv found)
  | hold =>
      refine fun key conv found => standing.mapped ?_ (everywhere key conv found)
      rfl
  | touch found touches =>
      exact standing.insert everywhere (standing.touches touches (everywhere _ _ found))
        touches.facts_framed
  | create displayTarget missing named =>
      refine standing.insert everywhere ?_ (hydrateFromLog_framed ..)
      exact standing.framed (hydrateFromLog_framed ..)
        (standing.identical (hydrateFromLog_identity ..) (standing.fresh (standing.opened named)))
  | remove key =>
      intro other conv listed
      refine standing.mapped ?_ (everywhere other conv (erase_found listed).2)
      unfold EventReducer.removeConversation
      dsimp only
      split
      · rfl
      · rfl
  | forget networkId =>
      by_cases named : networkId = ""
      · rw [EventReducer.forgetNetwork, if_pos named]
        exact everywhere
      · rw [forgetNetwork_eq reducer named]
        intro other conv listed
        obtain ⟨apart, before⟩ := filter_found listed
        refine standing.mapped ?_ (everywhere other conv before)
        have differs : conv.key.networkId ≠ networkId := by
          rw [keyed other conv before]
          exact of_decide_eq_true apart
        unfold Facts.caseMapping Facts.isupport
        dsimp only
        rw [Function.update_of_ne differs]
  | rename newNick caption found direct differs permitted moves =>
      rename_i oldKey conv
      generalize renamed : reducer.conversationKey oldKey.networkId newNick = newKey
      have captioned := appendEvent_identity reducer.facts { conv with target := newNick } caption
        true true
      have same := appendEvent_framed reducer.facts { conv with target := newNick } caption true true
      unfold EventReducer.onConversation
      rw [found]
      dsimp only
      generalize appendEvent reducer.facts { conv with target := newNick } caption true true =
        outcome at captioned same ⊢
      have own : outcome.2.key = oldKey :=
        (congrArg Identity.key captioned :).trans (keyed oldKey conv found)
      have kind : outcome.2.isChannel = false := (isChannel_congr captioned).trans direct
      have still : Keyed ({ facts := outcome.1
                            conversations := reducer.conversations.insert oldKey outcome.2 } :
          EventReducer Disk) := keyed.insert own _
      refine standing.moveDirect ?_ still ?_ Std.TreeMap.getElem?_insert_self kind
      · intro other found apart listed
        rcases insert_found listed with ⟨same, _⟩ | ⟨_, before⟩
        · exact absurd same apart
        · exact standing.framed same (everywhere other found before)
      · rw [← renamed]
        exact congrArg (ConversationKey.mk oldKey.networkId) (same.normalize _ newNick).symm
  | features networkId features permitted => exact (standing.settled networkId features permitted).elim
  | mute key muted =>
      intro other conv listed
      refine standing.mapped (setMuted_caseMapping reducer key muted _) ?_
      rcases setMuted_found reducer key muted listed with before | ⟨before, there, _, rfl⟩
      · exact everywhere other conv before
      · exact standing.alike (everywhere other before there) rfl rfl rfl
  | select =>
      refine fun key conv found => standing.mapped ?_ (everywhere key conv found)
      rfl

/-- A chain of moves keeps the law of every conversation. -/
theorem chain (standing : Standing rules law) {reducer next : EventReducer Disk}
    (chain : Chain rules reducer next) (keyed : Keyed reducer)
    (everywhere : Everywhere law reducer) : Everywhere law next := by
  induction chain with
  | refl => exact everywhere
  | tail prior move inductionHypothesis =>
      exact standing.move move (Chain.keyed prior keyed) inductionHypothesis

end Standing

end Omairc.Irc.Reducer
