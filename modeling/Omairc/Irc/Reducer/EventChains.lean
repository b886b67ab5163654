import Omairc.Irc.Reducer.Calls

/-!
# The folds of the events as chains of moves

Each handler of a translated event, and so each call of the owner, is a chain of moves.
-/

namespace Omairc.Irc.Reducer

open Omairc.Text

variable {Disk : Type} [Platform] [CharacterClasses] [Storage Disk] {rules : Rules Disk}

section Members

variable {facts : Facts Disk} {conv : ConversationState}

omit [Platform] in
/-- Entering a member is a chain of touches when its nick is folded. -/
theorem enterMember_touches {normalized nick : String}
    (named : facts.normalize conv.key.networkId nick = normalized) {own : Bool}
    (anchors : own = true → rules.anchors conv.key) :
    Touches rules facts conv facts (enterMember conv normalized nick own) := by
  cases own with
  | false =>
      exact .single (.roster _ fun channel _ =>
        ⟨rfl, (rostered_refl facts _ channel.members).insert named⟩)
  | true =>
      have entered : Touch rules facts conv (conv.onChannel fun channel =>
          { channel with
            joined := true
            members := channel.members.insert normalized
              { displayNick := nick
                ranks := ((channel.members[normalized]?).map MemberState.ranks).getD 0 } }) :=
        .roster _ fun channel _ => ⟨rfl, (rostered_refl facts _ channel.members).insert named⟩
      have whole := Touches.touch (.single entered) (.anchored (anchors rfl))
      rw [ConversationState.anchored, onChannel_onChannel] at whole
      exact whole

omit [Platform] in
/-- Renaming a member is a chain of touches when the new nick is folded. -/
theorem renameMember_touches (oldNormalized newNormalized newNick caption : String)
    (named : facts.normalize conv.key.networkId newNick = newNormalized) :
    Touches rules facts conv
      (renameMember facts conv oldNormalized newNormalized newNick caption).1
      (renameMember facts conv oldNormalized newNormalized newNick caption).2 := by
  unfold renameMember
  split
  · exact .refl
  · rename_i member _
    have renamed : Touch rules facts conv (conv.onChannel fun channel =>
        { channel with
          members := (channel.members.erase oldNormalized).insert newNormalized
            { member with displayNick := newNick } }) :=
      .roster _ fun channel _ =>
        ⟨rfl, (rostered_erase facts _ channel.members oldNormalized).insert named⟩
    exact (Touches.single renamed).trans (appendEvent_touches rules facts _ caption true true)

omit [Platform] [CharacterClasses] [Storage Disk] in
/-- Entering the members of a NAMES batch lists folded nicks only. -/
theorem names_rostered (networkId : String) (names : List Name)
    {members changed : StringMap MemberState}
    (rostered : Rostered facts networkId members changed) :
    Rostered facts networkId members (names.foldl (fun members name =>
      members.insert (facts.normalize networkId name.nick)
        { displayNick := name.nick, ranks := name.ranks }) changed) := by
  induction names generalizing changed with
  | nil => exact rostered
  | cons name rest inductionHypothesis => exact inductionHypothesis (rostered.insert rfl)

omit [Platform] in
/-- Merging a NAMES batch is a touch. -/
theorem mergeNames_touches {networkId : String} (own : conv.key.networkId = networkId)
    (names : List Name) (complete : Bool) (now : Instant) :
    Touches rules facts conv facts
      (conv.onChannel (mergeNames facts networkId names complete now)) := by
  refine .single (.roster _ fun channel _ => ?_)
  have entered : ∀ changed : StringMap MemberState,
      Rostered facts conv.key.networkId channel.members changed →
      Rostered facts conv.key.networkId channel.members (names.foldl (fun members name =>
        members.insert (facts.normalize networkId name.nick)
          { displayNick := name.nick, ranks := name.ranks }) changed) := by
    rw [own]
    exact fun changed => names_rostered networkId names
  unfold mergeNames
  dsimp only
  cases channel.namesSyncing with
  | true =>
      cases complete with
      | true => exact ⟨rfl, entered _ (rostered_refl facts _ _)⟩
      | false => exact ⟨rfl, entered _ (rostered_refl facts _ _)⟩
  | false =>
      cases complete with
      | true => exact ⟨rfl, entered _ (rostered_empty facts _ _)⟩
      | false => exact ⟨rfl, entered _ (rostered_empty facts _ _)⟩

omit [Platform] [CharacterClasses] [Storage Disk] in
/-- Rank changes list no one new. -/
theorem ranks_rostered (networkId : String) (changes : List IrcPrefixChange)
    {members changed : StringMap MemberState}
    (rostered : Rostered facts networkId members changed) :
    Rostered facts networkId members (changes.foldl (fun members change =>
      match members[facts.normalize networkId change.nick]? with
      | none => members
      | some member =>
          members.insert (facts.normalize networkId change.nick)
            { member with ranks := applyChange member.ranks change }) changed) := by
  induction changes generalizing changed with
  | nil => exact rostered
  | cons change rest inductionHypothesis =>
      rw [List.foldl_cons]
      refine inductionHypothesis ?_
      split
      · exact rostered
      · rename_i member found
        intro nick entered listed
        rcases insert_found listed with ⟨rfl, rfl⟩ | ⟨_, before⟩
        · exact rostered _ member found
        · exact rostered nick entered before

omit [Platform] in
/-- Applying rank changes is a touch. -/
theorem applyRanks_touches (networkId : String) (changes : List IrcPrefixChange)
    (own : conv.key.networkId = networkId) :
    Touches rules facts conv facts (conv.onChannel (applyRanks facts networkId changes)) := by
  refine .single (.roster _ fun channel _ => ⟨rfl, ?_⟩)
  rw [own]
  exact ranks_rostered networkId changes (rostered_refl facts _ _)

end Members

section Events

variable {reducer : EventReducer Disk}

theorem refreshMentions_chain (networkId : String) :
    Chain rules reducer (reducer.refreshMentions networkId) :=
  sweepNetwork_chain fun facts _ _ _ => .single (.flagged fun message =>
    facts.transcriptHighlight networkId message.author message.kind message.body)

theorem forgetUnseen_chain (networkId : String) (nicks : List String) :
    Chain rules reducer (reducer.forgetUnseen networkId nicks) := by
  unfold EventReducer.forgetUnseen
  split
  · exact .refl
  · exact facts_chain (onPresence_framed ..)

theorem clearTypingEverywhere_chain (networkId normalizedNick : String) :
    Chain rules reducer (reducer.clearTypingEverywhere networkId normalizedNick) :=
  sweepNetwork_chain fun _ _ _ _ => typing_touches rules _

theorem rekeyTyping_chain (networkId oldNormalized newNormalized newDisplay : String) :
    Chain rules reducer
      (reducer.rekeyTyping networkId oldNormalized newNormalized newDisplay) := by
  refine sweepNetwork_chain fun facts conv _ _ => ?_
  split
  · exact .refl
  · exact typing_touches rules _

omit [Platform] [CharacterClasses] [Storage Disk] in
theorem dropped_framed (reducer : EventReducer Disk) (networkId : String) :
    Framed reducer.facts (((reducer.dropPendingPlayback networkId).dropKeptPlayback
      networkId).clearClosedNetwork networkId).facts := by
  unfold EventReducer.clearClosedNetwork EventReducer.dropKeptPlayback
    EventReducer.dropPendingPlayback
  split
  · exact .refl _
  · exact ⟨rfl, rfl, rfl, fun _ _ found => (filter_found found).2⟩

omit [Platform] [CharacterClasses] [Storage Disk] in
theorem dropped_conversations (networkId : String) :
    (((reducer.dropPendingPlayback networkId).dropKeptPlayback
      networkId).clearClosedNetwork networkId).conversations = reducer.conversations := by
  unfold EventReducer.clearClosedNetwork EventReducer.dropKeptPlayback
    EventReducer.dropPendingPlayback
  split
  · rfl
  · rfl

omit [Platform] [CharacterClasses] [Storage Disk] in
theorem welcomeFacts_framed (facts : Facts Disk) (networkId currentNick : String) :
    Framed facts (welcomeFacts facts networkId currentNick) := by
  have pending : Framed facts { facts with
      queryRestorePending := insert networkId facts.queryRestorePending } :=
    ⟨rfl, rfl, rfl, fun _ _ found => found⟩
  have reset : ∀ before : Facts Disk, Framed before { before with
      currentNicks := Function.update before.currentNicks networkId (some currentNick)
      presence := Function.update before.presence networkId
        ((before.presence networkId).map fun _ => ∅)
      selfAway := before.selfAway.erase networkId } :=
    fun before => ⟨rfl, rfl, rfl, fun _ _ found => found⟩
  unfold welcomeFacts
  dsimp only
  split
  · exact pending.trans ((rememberSelfNick_framed ..).trans
      ((rememberSelfNick_framed ..).trans (reset _)))
  · exact pending.trans ((rememberSelfNick_framed ..).trans (reset _))

theorem reduceWelcome_chain (networkId currentNick : String) :
    Chain rules reducer (reducer.reduceWelcome networkId currentNick) := by
  have begun := (dropped_framed reducer networkId).trans
    (welcomeFacts_framed _ networkId currentNick)
  unfold EventReducer.reduceWelcome
  dsimp only
  rw [dropped_conversations]
  exact (facts_chain begun).trans ((sweepNetwork_chain fun facts conv _ _ =>
    (leftState_touches rules facts conv).trans (typing_touches rules ∅)).trans
      (refreshMentions_chain networkId))

/-- Folding a presence fact in is a move. -/
theorem onPresence_chain (networkId : String) (change : NetworkPresence → NetworkPresence) :
    Chain rules reducer { reducer with facts := reducer.facts.onPresence networkId change } :=
  facts_chain (onPresence_framed ..)

theorem reduceNickFacts_chain (networkId nick : String) (realname : Option String)
    (serverOperator : Option Bool) :
    Chain rules reducer (reducer.reduceNickFacts networkId nick realname serverOperator) := by
  unfold EventReducer.reduceNickFacts
  dsimp only
  split
  · exact .refl
  · cases realname with
    | none =>
        cases serverOperator with
        | none => exact .refl
        | some operator => exact onPresence_chain ..
    | some realname =>
        cases serverOperator with
        | none => exact onPresence_chain ..
        | some operator =>
            exact facts_chain ((onPresence_framed ..).trans (onPresence_framed ..))

theorem reduceAccount_chain (networkId nick account : String) :
    Chain rules reducer (reducer.reduceAccount networkId nick account) := by
  unfold EventReducer.reduceAccount
  dsimp only
  split
  · exact .refl
  · exact onPresence_chain ..

theorem reduceAway_chain (networkId nick : String) (away : Option Away)
    (realname : Option String) (realnameOnly : Bool) :
    Chain rules reducer (reducer.reduceAway networkId nick away realname realnameOnly) := by
  have marked : Framed reducer.facts (if realnameOnly then reducer.facts
      else reducer.facts.onPresence networkId
        (·.setAway (reducer.facts.normalize networkId nick) away)) := by
    split
    · exact .refl _
    · exact onPresence_framed ..
  unfold EventReducer.reduceAway
  refine facts_chain (marked.trans ?_)
  generalize (if realnameOnly = true then reducer.facts else _) = facts
  cases realname with
  | none => exact .refl _
  | some incoming =>
      dsimp only
      split
      · exact onPresence_framed ..
      · exact .refl _

theorem reduceTyping_chain (key : ConversationKey) (nick : String) (phase : TypingPhase)
    (receivedAt : Instant) :
    Chain rules reducer (reducer.reduceTyping key nick phase receivedAt) := by
  refine modify_chain fun conv _ => ?_
  split
  · exact typing_touches rules _
  · split
    · exact typing_touches rules _
    · exact typing_touches rules _

theorem depart_chain (networkId : String) (key : ConversationKey) (normalized : String)
    (own : Bool) (caption : String) (membership : Bool) :
    Chain rules reducer (reducer.depart networkId key normalized own caption membership) := by
  unfold EventReducer.depart
  split
  · exact .refl
  · split
    · exact .refl
    · refine Relation.ReflTransGen.trans ?_ (modify_chain fun conv _ => typing_touches rules _)
      refine Relation.ReflTransGen.trans ?_ (onConversation_chain fun conv _ =>
        appendEvent_touches rules _ conv caption membership membership)
      refine Relation.ReflTransGen.trans ?_ (forgetUnseen_chain ..)
      exact modify_chain fun conv _ => departMember_touches rules reducer.facts conv normalized own

theorem reduceKick_chain (networkId channel target author reason : String) :
    Chain rules reducer (reducer.reduceKick networkId channel target author reason) := by
  unfold EventReducer.reduceKick
  dsimp only
  have departed : Chain rules reducer (reducer.depart networkId
      (reducer.conversationKey networkId channel) (reducer.facts.normalize networkId target)
      (reducer.facts.isSelf networkId target) (target ++ " was kicked") false) :=
    depart_chain ..
  split
  · exact departed.trans (facts_chain ⟨rfl, rfl, rfl, fun _ _ found => found⟩)
  · exact departed

theorem reduceQuit_chain (networkId nick : String) :
    Chain rules reducer (reducer.reduceQuit networkId nick) := by
  unfold EventReducer.reduceQuit
  refine Relation.ReflTransGen.trans ?_ (clearTypingEverywhere_chain ..)
  refine Relation.ReflTransGen.trans ?_ (forgetUnseen_chain ..)
  refine sweepNetwork_chain fun facts conv _ _ => ?_
  split
  · have quit : Touch rules facts conv (conv.onChannel fun channel =>
        { channel with
          members := channel.members.erase (reducer.facts.normalize networkId nick) }) :=
      .roster _ fun channel _ => ⟨rfl, rostered_erase facts _ channel.members _⟩
    exact (Touches.single quit).trans (appendEvent_touches rules facts _ (quitLine nick) true true)
  · exact .refl

/-- The row of a live chat line. -/
def liveRow (facts : Facts Disk) (conv : ConversationState) (line : ChatLine) : Message :=
  { kind := line.kind, author := line.author, body := line.body, time := line.timestamp
    serverTime := line.serverTime, msgid := line.msgid
    mentioned := facts.transcriptHighlight line.key.networkId line.author line.kind line.body
    sequence := conv.nextSequence, onlyVisibleToYou := line.onlyVisibleToYou }

/-- The cause under which a live chat line opens its conversation. -/
def lineCause (facts : Facts Disk) (line : ChatLine) : IrcConversationCause :=
  if facts.isSelf line.key.networkId line.author then .inboundSelf else .inboundOther

/-- The state in which a live chat line finds its conversation. -/
def EventReducer.lineOpened (reducer : EventReducer Disk) (line : ChatLine) : EventReducer Disk :=
  (reducer.ensureKey line.key line.displayTarget (lineCause reducer.facts line)).1

/-- A live chat line that is not known may be added to its conversation. -/
def LandsLine (rules : Rules Disk) (reducer : EventReducer Disk) (line : ChatLine) : Prop :=
  ∀ conv, (reducer.lineOpened line).conversations[line.key]? = some conv →
    ¬(line.msgid ≠ "" ∧ (line.msgid ∈ conv.messageIds ∨
      (reducer.lineOpened line).facts.channelContextBlocksDm line.key conv.isChannel
        line.msgid)) →
    MessageKind.counted line.kind = true →
    rules.lands conv (liveRow (reducer.lineOpened line).facts (conv.know line.msgid) line)

/-- A chat line is a chain of moves when its conversation may be opened and its row may be
added. -/
theorem appendChat_chain {line : ChatLine}
    (named : rules.opens (reducer.facts.caseMapping line.key.networkId) line.key
      line.displayTarget)
    (permitted : LandsLine rules reducer line) :
    Chain rules reducer (reducer.appendChat line) := by
  unfold LandsLine EventReducer.lineOpened lineCause at permitted
  unfold EventReducer.appendChat
  dsimp only
  generalize (if reducer.facts.isSelf line.key.networkId line.author then
    IrcConversationCause.inboundSelf else .inboundOther) = cause at permitted ⊢
  have opened := ensureKey_chain named cause
  split
  · exact opened
  · refine opened.trans (onConversation_chain fun conv found => ?_)
    split
    · exact .refl
    · rename_i fresh
      refine Touches.trans ?_ (noteChatArrival_touches _ _ _ _ _ fun badged => ?_)
      · refine Touches.trans ?_ (typing_touches rules _)
        exact (Touches.of_framed (claimChannelContext_framed ..)).trans
          (admitLogged_touches rules _ conv _ (fun carried known => fresh ⟨carried, .inl known⟩)
            (permitted conv found fresh))
      · exact badged.issued _ (List.mem_of_getLast? (admitLogged_newest ..))

omit [Platform] [CharacterClasses] [Storage Disk] in
/-- The facts a JOIN carries change the presence only. -/
theorem joinFacts_cases (facts : Facts Disk) (networkId normalized : String)
    (account realname : Option String) :
    ∃ presence, joinFacts facts networkId normalized account realname = { facts with presence } := by
  have named : ∀ before : Facts Disk, ∃ presence,
      joinFacts before networkId normalized none realname = { before with presence } := by
    intro before
    unfold joinFacts
    dsimp only
    split
    · split
      · exact ⟨_, rfl⟩
      · exact ⟨_, rfl⟩
    · exact ⟨_, rfl⟩
  cases account with
  | none => exact named facts
  | some account =>
      by_cases blank : normalized = ""
      · obtain ⟨presence, same⟩ := named facts
        refine ⟨presence, Eq.trans ?_ same⟩
        unfold joinFacts
        dsimp only
        rw [if_pos blank]
      · obtain ⟨presence, same⟩ := named (facts.onPresence networkId (·.setAccount normalized account))
        refine ⟨presence, Eq.trans ?_ same⟩
        unfold joinFacts
        dsimp only
        rw [if_neg blank]

omit [Platform] [CharacterClasses] [Storage Disk] in
theorem joinFacts_framed (facts : Facts Disk) (networkId normalized : String)
    (account realname : Option String) :
    Framed facts (joinFacts facts networkId normalized account realname) := by
  obtain ⟨presence, same⟩ := joinFacts_cases facts networkId normalized account realname
  rw [same]
  exact ⟨rfl, rfl, rfl, fun _ _ => id⟩

omit [Platform] [CharacterClasses] [Storage Disk] in
theorem joinFacts_isSelf (facts : Facts Disk) (networkId normalized : String)
    (account realname : Option String) (nick : String) :
    (joinFacts facts networkId normalized account realname).isSelf networkId nick =
      facts.isSelf networkId nick := by
  obtain ⟨presence, same⟩ := joinFacts_cases facts networkId normalized account realname
  rw [same]
  rfl

/-- The user or a peer enters a channel. -/
theorem enter_chain (keyed : Keyed reducer) {key : ConversationKey} {normalized nick : String}
    (named : reducer.facts.normalize key.networkId nick = normalized) {own : Bool}
    (anchors : own = true → rules.anchors key) (caption : String) :
    Chain rules reducer (reducer.onConversation key fun facts conv =>
      appendEvent facts (enterMember conv normalized nick own) caption (!own) true) := by
  refine onConversation_chain fun conv found => ?_
  have folded : reducer.facts.normalize conv.key.networkId nick = normalized := by
    rw [keyed key conv found]
    exact named
  have anchors : own = true → rules.anchors conv.key := by
    rw [keyed key conv found]
    exact anchors
  exact (enterMember_touches folded anchors).trans
    (appendEvent_touches rules reducer.facts _ caption (!own) true)

/-- The conversation of a target may be opened under it. -/
def Opens (rules : Rules Disk) (reducer : EventReducer Disk) (networkId target : String) : Prop :=
  rules.opens (reducer.facts.caseMapping networkId) (reducer.conversationKey networkId target) target

/-- The state in which a JOIN finds the conversation of its channel. -/
def EventReducer.joinOpened (reducer : EventReducer Disk) (networkId channel nick : String)
    (account realname : Option String) : EventReducer Disk :=
  let reducer :=
    { reducer with
      facts := joinFacts reducer.facts networkId (reducer.facts.normalize networkId nick) account
        realname }
  (reducer.ensureKey (reducer.conversationKey networkId channel) channel .channelState).1

/-- The state in which the user's own join finds the batch held for its channel. -/
def EventReducer.ownJoined (reducer : EventReducer Disk) (networkId channel nick : String)
    (account realname : Option String) : EventReducer Disk :=
  let opened := reducer.joinOpened networkId channel nick account realname
  let shown := if account.isSome then opened.facts.displayAccount networkId nick else ""
  opened.onConversation (reducer.conversationKey networkId channel) fun facts conv =>
    appendEvent facts (enterMember conv (reducer.facts.normalize networkId nick) nick true)
      (joinLine nick shown) false true

theorem ownJoined_framed (reducer : EventReducer Disk) (networkId channel nick : String)
    (account realname : Option String) :
    Framed reducer.facts (reducer.ownJoined networkId channel nick account realname).facts := by
  have opened : Framed reducer.facts
      (reducer.joinOpened networkId channel nick account realname).facts :=
    (joinFacts_framed reducer.facts networkId (reducer.facts.normalize networkId nick) account
      realname).trans (@ensureKey_framed _ _ _ _ { reducer with facts := _ } _ _ _)
  exact opened.trans (onConversation_framed fun _ => appendEvent_framed ..)

/-- The batch held for a channel may be spliced when the user's own join releases it. -/
def SplicesJoined (rules : Rules Disk) (reducer : EventReducer Disk)
    (networkId channel nick : String) (account realname : Option String) : Prop :=
  reducer.facts.isSelf networkId nick = true →
    ∀ event, (reducer.ownJoined networkId channel nick account realname).facts.pendingPlayback[
        reducer.conversationKey networkId channel]? = some event →
      Splices rules ((reducer.ownJoined networkId channel nick account realname).forgetPlayback
        (reducer.conversationKey networkId channel)) (reducer.conversationKey networkId channel)
        event .keep

theorem reduceJoin_chain (keyed : Keyed reducer) (held : Held rules reducer.facts)
    {networkId channel nick : String} (opens : Opens rules reducer networkId channel)
    (anchors : reducer.facts.isSelf networkId nick = true →
      rules.anchors (reducer.conversationKey networkId channel))
    (account realname : Option String)
    (permitted : SplicesJoined rules reducer networkId channel nick account realname) :
    Chain rules reducer (reducer.reduceJoin networkId channel nick account realname) := by
  unfold SplicesJoined EventReducer.ownJoined EventReducer.joinOpened at permitted
  have learned := joinFacts_framed reducer.facts networkId
    (reducer.facts.normalize networkId nick) account realname
  have known := joinFacts_isSelf reducer.facts networkId
    (reducer.facts.normalize networkId nick) account realname nick
  unfold EventReducer.reduceJoin
  dsimp only
  generalize joinFacts reducer.facts networkId (reducer.facts.normalize networkId nick) account
    realname = facts at learned known permitted
  dsimp only at permitted
  generalize start : ({ reducer with facts } : EventReducer Disk) = entered at permitted ⊢
  have begun : Chain rules reducer entered := by
    rw [← start]
    exact facts_chain learned
  have framed : Framed reducer.facts entered.facts := by
    rw [← start]
    exact learned
  have same : (entered.ensureKey (entered.conversationKey networkId channel) channel
      .channelState).1.facts.isSelf networkId nick = reducer.facts.isSelf networkId nick := by
    rw [(ensureKey_claimed ..).isSelf, ← start]
    exact known
  have keys : entered.conversationKey networkId channel =
      reducer.conversationKey networkId channel :=
    congrArg (ConversationKey.mk networkId) (framed.normalize networkId channel)
  have anchored : reducer.facts.isSelf networkId nick = true →
      rules.anchors (entered.conversationKey networkId channel) := by
    rw [keys]
    exact anchors
  have named : Opens rules entered networkId channel := by
    rw [Opens, keys, framed.caseMapping]
    exact opens
  have opened : Chain rules reducer
      (entered.ensureKey (entered.conversationKey networkId channel) channel .channelState).1 :=
    begun.trans (ensureKey_chain named .channelState)
  have framed : Framed reducer.facts
      (entered.ensureKey (entered.conversationKey networkId channel) channel .channelState).1.facts :=
    framed.trans (ensureKey_framed ..)
  have own : (entered.conversationKey networkId channel).networkId = networkId := rfl
  rw [← keys] at permitted
  generalize entered.conversationKey networkId channel = key
    at opened framed own same anchored permitted ⊢
  generalize entered.ensureKey key channel .channelState = outcome
    at opened framed same permitted ⊢
  have named : outcome.1.facts.normalize key.networkId nick =
      reducer.facts.normalize networkId nick := by
    rw [own, framed.normalize]
  split
  · exact opened
  · split
    · exact opened
    · have still : Keyed outcome.1 := Chain.keyed opened keyed
      rw [← same] at anchored
      have joined := opened.trans (enter_chain still named anchored (joinLine nick
        (if account.isSome then outcome.1.facts.displayAccount networkId nick else "")))
      split
      · rename_i joins
        have released := permitted (same.symm.trans joins)
        rw [joins] at joined ⊢
        refine joined.trans (releasePendingPlayback_chain (held.framed (framed.trans ?_)) _ released)
        exact onConversation_framed fun conv => appendEvent_framed ..
      · exact joined

theorem reduceTopic_chain {networkId channel : String} (opens : Opens rules reducer networkId channel)
    (topic : String) (keepExistingTopic : Bool) :
    Chain rules reducer (reducer.reduceTopic networkId channel topic keepExistingTopic) := by
  unfold EventReducer.reduceTopic
  dsimp only
  have opened : Chain rules reducer
      (reducer.ensureKey (reducer.conversationKey networkId channel) channel .channelState).1 :=
    ensureKey_chain opens .channelState
  split
  · exact opened
  · exact opened.trans (modify_chain fun conv _ => .single (.roster _ fun channel _ =>
      ⟨rfl, rostered_refl _ _ channel.members⟩))

theorem reduceNames_chain (keyed : Keyed reducer) {networkId channel : String}
    (opens : Opens rules reducer networkId channel) (names : List Name) (complete : Bool) (now : Instant) :
    Chain rules reducer (reducer.reduceNames networkId channel names complete now) := by
  unfold EventReducer.reduceNames
  dsimp only
  have opened : Chain rules reducer
      (reducer.ensureKey (reducer.conversationKey networkId channel) channel .channelState).1 :=
    ensureKey_chain opens .channelState
  split
  · exact opened
  · refine opened.trans (modify_chain fun conv found => mergeNames_touches ?_ names complete now)
    rw [Chain.keyed opened keyed _ conv found]
    rfl

theorem reduceMode_chain (keyed : Keyed reducer) {networkId target : String}
    (opens : Opens rules reducer networkId target) (author mode : String)
    (arguments : List String) :
    Chain rules reducer (reducer.reduceMode networkId target author mode arguments) := by
  unfold EventReducer.reduceMode
  dsimp only
  have opened : Chain rules reducer
      (reducer.ensureKey (reducer.conversationKey networkId target) target .channelState).1 :=
    ensureKey_chain opens .channelState
  have own : (reducer.conversationKey networkId target).networkId = networkId := rfl
  split
  · exact .refl
  · generalize reducer.conversationKey networkId target = key at opened own ⊢
    generalize reducer.ensureKey key target .channelState = outcome at opened ⊢
    split
    · exact opened
    · generalize (if arguments = [] then _ else _ : String) = caption
      have noted : Chain rules reducer (outcome.1.onConversation key fun facts conv =>
          appendEvent facts conv caption false false) :=
        opened.trans (onConversation_chain fun conv _ =>
          appendEvent_touches rules _ conv caption false false)
      refine noted.trans (modify_chain fun conv found => applyRanks_touches networkId _ ?_)
      rw [Chain.keyed noted keyed key conv found]
      exact own

omit [Platform] [CharacterClasses] [Storage Disk] in
theorem ownNick_framed (facts : Facts Disk) (networkId oldNick newNick : String) :
    Framed facts (ownNick facts networkId oldNick newNick) :=
  (rememberSelfNick_framed facts networkId oldNick).trans ⟨rfl, rfl, rfl, fun _ _ found => found⟩

omit [Platform] [CharacterClasses] [Storage Disk] in
theorem sweepNetwork_framed (reducer : EventReducer Disk) {networkId : String}
    {change : Facts Disk → ConversationState → Facts Disk × ConversationState}
    (steps : ∀ facts conv, Framed facts (change facts conv).1) :
    Framed reducer.facts (reducer.sweepNetwork networkId change).facts := by
  refine foldl_framed EventReducer.facts (fun swept entry => ?_) _ reducer
  dsimp only
  split
  · exact steps swept.facts entry.2
  · exact .refl _

omit [Platform] [Storage Disk] in
theorem refreshMentions_framed (reducer : EventReducer Disk) (networkId : String) :
    Framed reducer.facts (reducer.refreshMentions networkId).facts :=
  sweepNetwork_framed reducer fun facts _ => .refl facts

omit [Platform] [CharacterClasses] [Storage Disk] in
theorem rekeyTyping_framed (reducer : EventReducer Disk)
    (networkId oldNormalized newNormalized newDisplay : String) :
    Framed reducer.facts
      (reducer.rekeyTyping networkId oldNormalized newNormalized newDisplay).facts := by
  refine sweepNetwork_framed reducer fun facts conv => ?_
  split
  · exact .refl _
  · exact .refl _

omit [Platform] [Storage Disk] in
/-- The user's own nick follows the change. -/
theorem takeNick_framed (networkId oldNick newNick : String) :
    Framed reducer.facts (reducer.takeNick networkId oldNick newNick).facts := by
  unfold EventReducer.takeNick
  split
  · have taken := ownNick_framed reducer.facts networkId oldNick newNick
    exact taken.trans (refreshMentions_framed
      { reducer with facts := ownNick reducer.facts networkId oldNick newNick } networkId)
  · exact .refl _

theorem takeNick_chain (networkId oldNick newNick : String) :
    Chain rules reducer (reducer.takeNick networkId oldNick newNick) := by
  unfold EventReducer.takeNick
  split
  · exact (facts_chain (ownNick_framed ..)).trans (refreshMentions_chain networkId)
  · exact .refl

omit [Platform] [CharacterClasses] in
theorem renameMember_framed (facts : Facts Disk) (conv : ConversationState)
    (oldNormalized newNormalized newNick caption : String) :
    Framed facts (renameMember facts conv oldNormalized newNormalized newNick caption).1 := by
  unfold renameMember
  split
  · exact .refl _
  · exact appendEvent_framed ..

omit [Platform] [Storage Disk] in
theorem rekeyNick_framed (networkId oldNick newNick : String) :
    Framed reducer.facts (reducer.rekeyNick networkId oldNick newNick).facts := by
  refine (takeNick_framed networkId oldNick newNick).trans ?_
  unfold EventReducer.rekeyNick
  dsimp only
  generalize reducer.takeNick networkId oldNick newNick = current
  exact (onPresence_framed current.facts networkId (·.rekey
    (reducer.facts.normalize networkId oldNick) (reducer.facts.normalize networkId newNick))).trans
      (rekeyTyping_framed { current with facts := _ } ..)

theorem rekeyNick_chain (networkId oldNick newNick : String) :
    Chain rules reducer (reducer.rekeyNick networkId oldNick newNick) := by
  refine Relation.ReflTransGen.trans (takeNick_chain networkId oldNick newNick) ?_
  unfold EventReducer.rekeyNick
  dsimp only
  generalize reducer.takeNick networkId oldNick newNick = current
  exact (onPresence_chain ..).trans (rekeyTyping_chain ..)

omit [Platform] in
theorem renameEverywhere_framed (networkId oldNick newNick : String) :
    Framed reducer.facts (reducer.renameEverywhere networkId oldNick newNick).facts :=
  (rekeyNick_framed networkId oldNick newNick).trans
    (sweepNetwork_framed _ fun _ _ => renameMember_framed ..)

/-- The channels, the presence and the typing hints move to a new nick. -/
theorem renameEverywhere_chain (networkId oldNick newNick : String) :
    Chain rules reducer (reducer.renameEverywhere networkId oldNick newNick) := by
  refine (rekeyNick_chain networkId oldNick newNick).trans
    (sweepNetwork_chain fun _ _ same inside => renameMember_touches _ _ _ _ ?_)
  rw [inside, same.normalize, (rekeyNick_framed networkId oldNick newNick).normalize]

/-- A renamed direct conversation moves to the key of its new nick. -/
theorem renameDirect_chain (keyed : Keyed reducer) {oldKey newKey : ConversationKey}
    (newNick caption : String) (renamed : newKey = reducer.conversationKey oldKey.networkId newNick)
    (opens : Opens rules reducer oldKey.networkId newNick)
    {conv : ConversationState} (found : reducer.conversations[oldKey]? = some conv)
    (direct : conv.isChannel = false)
    (permitted : oldKey ≠ newKey → rules.permits (.renames oldKey newKey))
    (moves : oldKey ≠ newKey → rules.moves reducer.facts oldKey newKey
      reducer.conversations[newKey]?
      (appendEvent reducer.facts { conv with target := newNick } caption true true).2) :
    Chain rules reducer
      (let moved := reducer.onConversation oldKey fun facts conv =>
        appendEvent facts { conv with target := newNick } caption true true
      if oldKey = newKey then moved else moved.moveDirect oldKey newKey newNick) := by
  dsimp only
  split
  · rename_i same
    refine onConversation_chain fun conv found => ?_
    have named : rules.opens (reducer.facts.caseMapping conv.key.networkId) conv.key newNick := by
      rw [Opens, ← same.trans renamed] at opens
      rw [keyed oldKey conv found]
      exact opens
    exact (Touches.single (.retargeted newNick named)).trans (appendEvent_touches ..)
  · rename_i differs
    have permitted := permitted differs
    have moves := moves differs
    rw [renamed] at differs permitted moves ⊢
    exact .single (.rename newNick caption found direct differs permitted moves)

omit [Platform] [CharacterClasses] in
/-- Renaming a member makes no channel and unmakes none. -/
theorem renameMember_isChannel (facts : Facts Disk) (conv : ConversationState)
    (oldNormalized newNormalized newNick caption : String) :
    (renameMember facts conv oldNormalized newNormalized newNick caption).2.isChannel =
      conv.isChannel := by
  unfold renameMember
  split
  · rfl
  · rw [isChannel_congr (appendEvent_identity ..)]
    exact Option.isSome_map

omit [Platform] in
/-- The channels and direct messages are the same ones after a nick moved in them. -/
theorem renameEverywhere_found {networkId oldNick newNick : String} {key : ConversationKey}
    {conv : ConversationState}
    (found : (reducer.renameEverywhere networkId oldNick newNick).conversations[key]? =
      some conv) :
    ∃ before, reducer.conversations[key]? = some before ∧
      before.isChannel = conv.isChannel := by
  obtain ⟨renamed, there, same⟩ := sweepNetwork_found found
  have kind : renamed.isChannel = conv.isChannel := by
    rcases same with ⟨_, facts, rfl⟩ | ⟨_, rfl⟩
    · exact (renameMember_isChannel ..).symm
    · rfl
  unfold EventReducer.rekeyNick at there
  dsimp only at there
  obtain ⟨typed, there, same⟩ := sweepNetwork_found there
  have kind : typed.isChannel = conv.isChannel := by
    refine Eq.trans ?_ kind
    rcases same with ⟨_, facts, rfl⟩ | ⟨_, rfl⟩
    · split
      · rfl
      · rfl
    · rfl
  unfold EventReducer.takeNick at there
  dsimp only at there
  split at there
  · obtain ⟨flagged, there, same⟩ := sweepNetwork_found there
    refine ⟨flagged, there, Eq.trans ?_ kind⟩
    rcases same with ⟨_, facts, rfl⟩ | ⟨_, rfl⟩
    · rfl
    · rfl
  · exact ⟨typed, there, kind⟩

/-- A renamed direct conversation, with its caption, may be moved to the key of the new nick:
on its own, or into the conversation that had the name. -/
def MovesRenamed (rules : Rules Disk) (reducer : EventReducer Disk)
    (networkId oldNick newNick : String) : Prop :=
  ∀ conv,
    (reducer.renameEverywhere networkId oldNick newNick).conversations[
      reducer.conversationKey networkId oldNick]? = some conv →
    conv.isChannel = false →
    reducer.conversationKey networkId oldNick ≠ reducer.conversationKey networkId newNick →
    rules.moves (reducer.renameEverywhere networkId oldNick newNick).facts
      (reducer.conversationKey networkId oldNick) (reducer.conversationKey networkId newNick)
      (reducer.renameEverywhere networkId oldNick newNick).conversations[
        reducer.conversationKey networkId newNick]?
      (appendEvent (reducer.renameEverywhere networkId oldNick newNick).facts
        { conv with target := newNick } (nickLine oldNick newNick) true true).2

theorem reduceNick_chain (keyed : Keyed reducer) {networkId oldNick newNick : String}
    (opens : Opens rules reducer networkId newNick)
    (permitted : ∀ conv,
      reducer.conversations[reducer.conversationKey networkId oldNick]? = some conv →
      conv.isChannel = false →
      reducer.conversationKey networkId oldNick ≠ reducer.conversationKey networkId newNick →
      rules.permits (.renames (reducer.conversationKey networkId oldNick)
        (reducer.conversationKey networkId newNick)))
    (moves : MovesRenamed rules reducer networkId oldNick newNick) :
    Chain rules reducer (reducer.reduceNick networkId oldNick newNick) := by
  unfold MovesRenamed at moves
  unfold EventReducer.reduceNick
  dsimp only
  have everywhere : Chain rules reducer (reducer.renameEverywhere networkId oldNick newNick) :=
    renameEverywhere_chain networkId oldNick newNick
  have framed : Framed reducer.facts
      (reducer.renameEverywhere networkId oldNick newNick).facts :=
    renameEverywhere_framed networkId oldNick newNick
  have still : Keyed (reducer.renameEverywhere networkId oldNick newNick) :=
    Chain.keyed everywhere keyed
  have there : ∀ (key : ConversationKey) (conv : ConversationState),
      (reducer.renameEverywhere networkId oldNick newNick).conversations[key]? = some conv →
      ∃ before, reducer.conversations[key]? = some before ∧ before.isChannel = conv.isChannel :=
    fun key conv => renameEverywhere_found
  generalize reducer.renameEverywhere networkId oldNick newNick = current
    at everywhere framed still there moves ⊢
  refine everywhere.trans ?_
  split
  · rename_i own
    obtain ⟨conv, found, direct⟩ := (Option.any_eq_true _ _).mp own
    have direct : conv.isChannel = false := by simpa using direct
    obtain ⟨before, listed, same⟩ := there _ conv found
    have renamed : reducer.conversationKey networkId newNick =
        current.conversationKey networkId newNick :=
      congrArg (ConversationKey.mk networkId) (framed.normalize networkId newNick).symm
    refine renameDirect_chain still newNick (nickLine oldNick newNick) renamed ?_ found direct
      (permitted before listed (same.trans direct))
      (moves conv found direct)
    rw [Opens, framed.caseMapping]
    exact renamed ▸ opens
  · exact .refl

/-- Adding a plain row is a chain of moves. -/
theorem appendPlain_chain (key : ConversationKey) {kind : MessageKind}
    (plain : MessageKind.counted kind = false) (body : String) :
    Chain rules reducer (reducer.onConversation key fun facts conv =>
      appendPlain facts conv kind body) :=
  onConversation_chain fun conv _ => appendPlain_touches rules reducer.facts conv kind plain body

/-- What the rules ask of an event: that the conversation it names may be opened, that the
channel of the user's own join may be anchored, and that a direct message may be
renamed. -/
def Admits (rules : Rules Disk) (reducer : EventReducer Disk) : Event → Prop
  | .message line | .notice line | .action line =>
      rules.opens (reducer.facts.caseMapping line.conversation.networkId) line.conversation
        (displayTarget line.conversation line.target)
  | .join networkId channel nick _ _ =>
      Opens rules reducer networkId channel ∧
      (reducer.facts.isSelf networkId nick = true →
        rules.anchors (reducer.conversationKey networkId channel))
  | .topic networkId channel _ _ | .names networkId channel _ _ | .mode networkId channel _ _ _ =>
      Opens rules reducer networkId channel
  | .nick networkId oldNick newNick =>
      Opens rules reducer networkId newNick ∧
      ∀ conv, reducer.conversations[reducer.conversationKey networkId oldNick]? = some conv →
        conv.isChannel = false →
        reducer.conversationKey networkId oldNick ≠ reducer.conversationKey networkId newNick →
        rules.permits (.renames (reducer.conversationKey networkId oldNick)
          (reducer.conversationKey networkId newNick))
  | .history batch =>
      rules.opens (reducer.facts.caseMapping batch.conversation.networkId) batch.conversation
        batch.target
  | _ => True

/-- What the rules ask of the rows and batches an event brings: that a chat row may be added,
that a batch may be spliced where it is routed to or released, and that a renamed
conversation may be moved. -/
def LandsEvent (rules : Rules Disk) (reducer : EventReducer Disk) : Event → Prop
  | .message line => LandsLine rules reducer (chatLineOf line .message)
  | .notice line => LandsLine rules reducer (chatLineOf line .notice)
  | .action line => LandsLine rules reducer (chatLineOf line .action)
  | .join networkId channel nick account realname =>
      SplicesJoined rules reducer networkId channel nick account realname
  | .nick networkId oldNick newNick => MovesRenamed rules reducer networkId oldNick newNick
  | .history batch => SplicesRouted rules reducer batch
  | _ => True

/-- Every event is a chain of moves. -/
theorem reduce_chain (keyed : Keyed reducer) (held : Held rules reducer.facts) {event : Event}
    (admitted : Admits rules reducer event) (landing : LandsEvent rules reducer event)
    (now : Instant) : Chain rules reducer (reducer.reduce event now) := by
  cases event with
  | welcome networkId currentNick => exact reduceWelcome_chain ..
  | message line => exact appendChat_chain admitted landing
  | notice line => exact appendChat_chain admitted landing
  | action line => exact appendChat_chain admitted landing
  | join networkId channel nick account realname =>
      exact reduceJoin_chain keyed held admitted.1 admitted.2 _ _ landing
  | part networkId channel nick => exact depart_chain ..
  | quit networkId nick => exact reduceQuit_chain ..
  | nick networkId oldNick newNick => exact reduceNick_chain keyed admitted.1 admitted.2 landing
  | kick networkId channel target author reason => exact reduceKick_chain ..
  | topic networkId channel topic keepExistingTopic => exact reduceTopic_chain admitted ..
  | names networkId channel names complete => exact reduceNames_chain keyed admitted ..
  | mode networkId target author mode arguments => exact reduceMode_chain keyed admitted ..
  | away networkId nick away realname realnameOnly => exact reduceAway_chain ..
  | selfAway networkId away => exact facts_chain ⟨rfl, rfl, rfl, fun _ _ found => found⟩
  | memberMetadata networkId nick key value => exact onPresence_chain ..
  | account networkId nick account => exact reduceAccount_chain ..
  | typing conversation nick phase receivedAt => exact reduceTyping_chain ..
  | history batch => exact reduceHistory_chain held admitted landing
  | whoisTranscript destination formattedBody => exact appendPlain_chain destination rfl _
  | channelError networkId channel body => exact appendPlain_chain _ rfl body
  | nickFacts networkId nick realname serverOperator => exact reduceNickFacts_chain ..

end Events

section Calls

variable {reducer : EventReducer Disk}

/-- What the rules ask of a call. -/
def Follows (rules : Rules Disk) (reducer : EventReducer Disk) : Call Disk → Prop
  | .apply event _ => Admits rules reducer.forgetArrivals event
  | .ensureConversation key displayTarget _ =>
      rules.opens (reducer.facts.caseMapping key.networkId) key displayTarget
  | .dropDirectMessage key | .dropChannel key => rules.permits (.removes key)
  | .forgetNetwork networkId => rules.permits (.forgets networkId)
  | .setMuted key muted => rules.permits (.mutes key muted)
  | .markSelected key => rules.permits (.selects (some key))
  | .clearSelection => rules.permits (.selects none)
  | .setServerFeatures networkId features => rules.permits (.advertises networkId features)
  | _ => True

/-- What the rules ask of the rows and batches a call brings. -/
def Lands (rules : Rules Disk) (reducer : EventReducer Disk) : Call Disk → Prop
  | .apply event _ => LandsEvent rules reducer.forgetArrivals event
  | .releasePendingQueryPlayback networkId => SplicesReleased rules reducer networkId
  | _ => True

/-- Rules that refuse pages only allow every event but a page. -/
theorem Rules.Lenient.landsEvent (lenient : rules.Lenient) (held : Held rules reducer.facts)
    {event : Event}
    (paged : ∀ page, event = .history page → page.kind = .chat →
      Splices rules reducer page.conversation page .consume) : LandsEvent rules reducer event := by
  cases event with
  | message line => exact fun conv _ _ _ => lenient.lands conv _
  | notice line => exact fun conv _ _ _ => lenient.lands conv _
  | action line => exact fun conv _ _ _ => lenient.lands conv _
  | join networkId channel nick account realname =>
      intro _ batch found
      have framed := ownJoined_framed reducer networkId channel nick account realname
      exact lenient.spliced (held _ batch (framed.held _ batch found)).1 _ _
  | nick networkId oldNick newNick => exact fun conv _ _ _ => lenient.moves _ _ _ _ _
  | history batch => exact lenient.routed held (paged batch rfl)
  | _ => exact trivial

/-- Rules that refuse pages only allow every call but a page. -/
theorem Rules.Lenient.lands_call (lenient : rules.Lenient) (held : Held rules reducer.facts)
    {call : Call Disk}
    (paged : ∀ page now, call = .apply (.history page) now → page.kind = .chat →
      Splices rules reducer.forgetArrivals page.conversation page .consume) :
    Lands rules reducer call := by
  cases call with
  | apply event now =>
      have forgotten : Framed reducer.facts reducer.forgetArrivals.facts :=
        ⟨rfl, rfl, rfl, fun _ _ found => found⟩
      exact @Rules.Lenient.landsEvent _ _ _ _ _ reducer.forgetArrivals lenient
        (held.framed forgotten) _ fun page same => paged page now (congrArg (Call.apply · now) same)
  | releasePendingQueryPlayback networkId => exact lenient.released held networkId
  | _ => exact trivial

theorem markChannelLeft_chain (key : ConversationKey) :
    Chain rules reducer (reducer.markChannelLeft key).1 := by
  unfold EventReducer.markChannelLeft
  split
  · exact .refl
  · split
    · exact modify_chain fun conv _ =>
        (leftState_touches rules reducer.facts conv).trans (typing_touches rules ∅)
    · exact .refl

theorem countsCleared_chain (key : ConversationKey) {mark : ConversationState → Option Int}
    (kept : ∀ conv sequence, mark conv = some sequence → conv.unreadMark = some sequence) :
    Chain rules reducer (reducer.modify key fun conv =>
      { conv with unreadMark := mark conv, unread := 0, mentions := 0 }) :=
  modify_chain fun conv _ => .single (.counted conv.typing 0 0 (mark conv) conv.readMarker
    conv.historyPageCapTail fun badged => badged.zeroed (kept conv))

theorem markSelected_chain {key : ConversationKey}
    (permitted : rules.permits (.selects (some key))) :
    Chain rules reducer (reducer.markSelected key) := by
  unfold EventReducer.markSelected
  split
  · exact .refl
  · refine .head (.select (some key) permitted) (countsCleared_chain key fun conv sequence there => ?_)
    split at there
    · cases there
    · exact there

omit [Platform] in
/-- Counting again is a chain of touches. -/
theorem recount_touches (facts : Facts Disk) (conv : ConversationState) (key : ConversationKey)
    (readMarker : Option Instant) :
    Touches rules facts conv facts
      (recountUnreadFromReadMarker facts { conv with readMarker } key) := by
  have rows : ∀ (messages : List Message) (counted : ConversationState),
      (∀ message ∈ messages, message ∈ counted.messages) →
      Touches rules facts conv facts counted →
      Touches rules facts conv facts (messages.foldl (recountRow facts key) counted) := by
    intro messages
    induction messages with
    | nil => exact fun _ _ prior => prior
    | cons message rest inductionHypothesis =>
        intro counted listed prior
        have keeps := fun badged : counted.Badged => badged.recountRow facts key
          (badged.issued message (listed message List.mem_cons_self))
        obtain ⟨unread, mentions, unreadMark, same⟩ := recountRow_cases facts key counted message
        rw [List.foldl_cons]
        rw [same] at keeps ⊢
        exact inductionHypothesis _ (fun later there => listed later (List.mem_cons_of_mem _ there))
          (prior.trans (.single (.counted counted.typing unread mentions unreadMark
            counted.readMarker counted.historyPageCapTail keeps)))
  refine rows conv.messages _ (fun _ listed => listed) (.single (.counted conv.typing 0 0 none
    readMarker conv.historyPageCapTail fun badged => ?_))
  exact ConversationState.Badged.recast (badged.zeroed fun _ absent => by cases absent)

theorem applyServerReadMarker_chain (key : ConversationKey) (marker : Option Instant) :
    Chain rules reducer (reducer.applyServerReadMarker key marker) := by
  unfold EventReducer.applyServerReadMarker
  split
  · exact .refl
  · refine modify_chain fun conv _ => ?_
    split
    · exact .refl
    · exact recount_touches ..

/-- Folding an event in is a chain of moves. -/
theorem apply_chain (keyed : Keyed reducer) (held : Held rules reducer.facts) {event : Event}
    (admitted : Admits rules reducer.forgetArrivals event)
    (landing : LandsEvent rules reducer.forgetArrivals event) (now : Instant) :
    Chain rules reducer (reducer.apply event now) := by
  have forgotten : Framed reducer.facts reducer.forgetArrivals.facts :=
    ⟨rfl, rfl, rfl, fun _ _ found => found⟩
  have still : Keyed reducer.forgetArrivals := keyed
  exact (facts_chain forgotten).trans (reduce_chain still (held.framed forgotten) admitted landing now)

theorem markAllRead_chain : Chain rules reducer reducer.markAllRead :=
  sweep_chain fun _ _ conv _ _ => .single (.counted conv.typing 0 0 conv.unreadMark
    conv.readMarker conv.historyPageCapTail fun badged => badged.zeroed fun _ there => there)

theorem releaseStaleNamesSync_chain (key : Option ConversationKey) (now : Instant) :
    Chain rules reducer (reducer.releaseStaleNamesSync key now) := by
  cases key with
  | none => exact .refl
  | some key =>
      refine modify_chain fun conv _ => .single (.roster _ fun channel _ => ?_)
      split
      · exact ⟨rfl, rostered_refl _ _ _⟩
      · exact ⟨rfl, rostered_refl _ _ _⟩

theorem clearTypingFacts_chain (networkId : String) :
    Chain rules reducer (reducer.clearTypingFacts networkId) :=
  sweepNetwork_chain fun _ _ _ _ => typing_touches rules ∅

/-- Every call is a chain of moves. -/
theorem perform_chain (keyed : Keyed reducer) (held : Held rules reducer.facts)
    {call : Call Disk} (follows : Follows rules reducer call)
    (landing : Lands rules reducer call) : Chain rules reducer (reducer.perform call) := by
  cases call with
  | apply event now => exact apply_chain keyed held follows landing now
  | ensureConversation key displayTarget cause => exact ensureKey_chain follows cause
  | dropDirectMessage key =>
      rw [EventReducer.perform, EventReducer.dropDirectMessage]
      split
      · exact .refl
      · split
        · exact .refl
        · exact .single (.remove key follows)
  | dropChannel key =>
      rw [EventReducer.perform, EventReducer.dropChannel]
      split
      · exact .refl
      · split
        · exact .single (.remove key follows)
        · exact .refl
  | noteClosed key =>
      rw [EventReducer.perform, EventReducer.noteClosed]
      split
      · exact .refl
      · dsimp only
        split
        · exact facts_chain ⟨rfl, rfl, rfl, fun _ _ found => found⟩
        · exact facts_chain ⟨rfl, rfl, rfl, fun _ _ found => found⟩
  | clearClosed key =>
      rw [EventReducer.perform, EventReducer.clearClosed]
      dsimp only
      split
      · exact facts_chain ⟨rfl, rfl, rfl, fun _ _ found => found⟩
      · exact facts_chain ⟨rfl, rfl, rfl, fun _ _ found => found⟩
  | markChannelLeft key => exact markChannelLeft_chain key
  | forgetNetwork networkId => exact .single (.forget networkId follows)
  | clearMessages key => exact modify_chain fun conv _ => .single .cleared
  | setMuted key muted => exact .single (.mute key muted follows)
  | markSelected key => exact markSelected_chain follows
  | markRead key => exact countsCleared_chain key fun _ _ there => there
  | markAllRead => exact markAllRead_chain
  | markHistoryPageCapTail key => exact modify_chain fun conv _ => capTail_touches rules true
  | clearHistoryPageCapTail key => exact modify_chain fun conv _ => capTail_touches rules false
  | clearSelection => exact .single (.select none follows)
  | setMembershipNoise noise => exact facts_chain ⟨rfl, rfl, rfl, fun _ _ found => found⟩
  | setWindowActive active => exact facts_chain ⟨rfl, rfl, rfl, fun _ _ found => found⟩
  | setConversationLog wired => exact facts_chain ⟨rfl, rfl, rfl, fun _ _ found => found⟩
  | setClosedPersistence => exact facts_chain ⟨rfl, rfl, rfl, fun _ _ found => found⟩
  | setServerFeatures networkId features =>
      exact .head (.features networkId features follows) (refreshMentions_chain networkId)
  | setHighlightWords networkId words =>
      rw [EventReducer.perform, EventReducer.setHighlightWords]
      split
      · exact .refl
      · refine Relation.ReflTransGen.trans ?_ (refreshMentions_chain networkId)
        exact facts_chain ⟨rfl, rfl, rfl, fun _ _ found => found⟩
  | releaseStaleNamesSync key now => exact releaseStaleNamesSync_chain key now
  | clearTypingFacts networkId => exact clearTypingFacts_chain networkId
  | clearPresenceFacts networkId away metadata =>
      rw [EventReducer.perform, EventReducer.clearPresenceFacts]
      split
      · exact .refl
      · exact onPresence_chain ..
  | applyServerReadMarker key marker => exact applyServerReadMarker_chain key marker
  | releasePendingQueryPlayback networkId => exact releasePendingQueryPlayback_chain held landing
  | takeMentionArrival => exact facts_chain ⟨rfl, rfl, rfl, fun _ _ found => found⟩
  | takeInboxArrival => exact facts_chain ⟨rfl, rfl, rfl, fun _ _ found => found⟩
  | takeRememberedQueries => exact facts_chain ⟨rfl, rfl, rfl, fun _ _ found => found⟩
  | takeKeptReplay => exact facts_chain ⟨rfl, rfl, rfl, fun _ _ found => found⟩
  | storageChanged disk => exact facts_chain ⟨rfl, rfl, rfl, fun _ _ found => found⟩

end Calls

end Omairc.Irc.Reducer
