import Omairc.Irc.Reducer.ReadMarker

/-!
# The folds of the events

One handler for each translated event. Each changes the conversation it names and the
facts it reads.
-/

namespace Omairc.Irc.Reducer

open Omairc.Text

variable {Disk : Type}

/-- The target a line is shown under: the one of the event, or the normalized one. -/
def displayTarget (key : ConversationKey) (target : String) : String :=
  if target = "" then key.normalizedTarget else target

/-- Remove a member, and with it every member when the departure is the user's own. -/
def departMember (conv : ConversationState) (normalized : String) (own : Bool) :
    ConversationState :=
  let conv := conv.onChannel fun channel =>
    { channel with members := channel.members.erase normalized }
  if own then leftState conv else conv

/-- The nicks a departure takes off a channel. -/
def departedNicks (conv : ConversationState) (normalized : String) (own : Bool) :
    List String :=
  normalized ::
    if own then
      (conv.channel.map fun channel => (channel.members.erase normalized).keys).getD []
    else []

/-- The chat line of a delivered event. -/
def chatLineOf (event : ChatEvent) (kind : MessageKind) : ChatLine :=
  { key := event.conversation, displayTarget := displayTarget event.conversation event.target
    author := event.author, body := event.body, timestamp := event.timestamp
    serverTime := event.serverTime, kind, msgid := event.msgid
    onlyVisibleToYou := event.onlyVisibleToYou }

/-- Enter a member in a channel. The user's own join marks it joined and sets the history
anchor at the tail. -/
def enterMember (conv : ConversationState) (normalized nick : String) (own : Bool) :
    ConversationState :=
  let end_ : Int := conv.trimmed + conv.messages.length
  conv.onChannel fun channel =>
    let ranks := ((channel.members[normalized]?).map MemberState.ranks).getD 0
    let channel :=
      { channel with members := channel.members.insert normalized { displayNick := nick, ranks } }
    if own then { channel with joined := true, historyAnchor := some { sequence := end_ } }
    else channel

/-- Merge a NAMES batch into the members, starting and finishing the sync. -/
def mergeNames (facts : Facts Disk) (networkId : String) (names : List Name)
    (complete : Bool) (now : Instant) (channel : ChannelState) : ChannelState :=
  let channel :=
    if channel.namesSyncing then channel
    else { channel with members := ∅, namesSyncing := true, namesSyncStarted := some now }
  let channel :=
    { channel with
      members := names.foldl (fun members name =>
        members.insert (facts.normalize networkId name.nick)
          { displayNick := name.nick, ranks := name.ranks }) channel.members }
  if complete then { channel with namesSyncing := false, namesSyncStarted := none } else channel

/-- Apply rank changes to the members that are known. -/
def applyRanks (facts : Facts Disk) (networkId : String) (changes : List IrcPrefixChange)
    (channel : ChannelState) : ChannelState :=
  { channel with
    members := changes.foldl (fun members change =>
      let normalized := facts.normalize networkId change.nick
      match members[normalized]? with
      | none => members
      | some member =>
          members.insert normalized { member with ranks := applyChange member.ranks change })
      channel.members }

/-- Admit the rows of a renamed conversation into the one that had the name. Both may hold
the same msgid. -/
def mergeRow (movedMark : Option Int) (existing : ConversationState) (message : Message) :
    ConversationState :=
  if message.msgid ≠ "" ∧ message.msgid ∈ existing.messageIds then existing
  else
    let existing := existing.know message.msgid
    let sequence := existing.nextSequence
    { existing with
      nextSequence := sequence + 1
      unreadMark :=
        if existing.unreadMark = none ∧ movedMark = some message.sequence then some sequence
        else existing.unreadMark
      messages := existing.messages ++ [{ message with sequence }] }

/-- Merge a renamed conversation into the one that had the name. -/
def mergeConversation (facts : Facts Disk) (existing moved : ConversationState)
    (newNick : String) : Facts Disk × ConversationState :=
  let merged := moved.messages.foldl (mergeRow moved.unreadMark) existing
  let (facts, merged) := capMessages facts merged
  (facts, { merged with
    unread := merged.unread + moved.unread
    mentions := merged.mentions + moved.mentions
    muted := merged.muted || moved.muted
    typing := moved.typing.foldl (fun typing nick hint => typing.insert nick hint) merged.typing
    target := newNick })

/-- Rename the member of one channel. -/
def renameMember [Storage Disk] (facts : Facts Disk) (conv : ConversationState)
    (oldNormalized newNormalized newNick caption : String) :
    Facts Disk × ConversationState :=
  match conv.channel.bind fun channel => channel.members[oldNormalized]? with
  | none => (facts, conv)
  | some member =>
      let conv := conv.onChannel fun channel =>
        { channel with
          members := (channel.members.erase oldNormalized).insert newNormalized
            { member with displayNick := newNick } }
      appendEvent facts conv caption true true

/-- The account and realname a JOIN carries. -/
def joinFacts (facts : Facts Disk) (networkId normalized : String)
    (account realname : Option String) : Facts Disk :=
  let facts :=
    match account with
    | some account =>
        if normalized = "" then facts
        else facts.onPresence networkId (·.setAccount normalized account)
    | none => facts
  match realname with
  | some realname =>
      if realname = "" ∨ normalized = "" then facts
      else facts.onPresence networkId (·.setRealname normalized realname)
  | none => facts

/-- The user changes nick. -/
def ownNick (facts : Facts Disk) (networkId oldNick newNick : String) : Facts Disk :=
  let facts := facts.rememberSelfNick networkId oldNick
  { facts with currentNicks := Function.update facts.currentNicks networkId (some newNick) }

/-- Where a renamed conversation lands: on its own, or merged into the one that had the
name. -/
def landConversation (facts : Facts Disk) (existing : Option ConversationState)
    (moved : ConversationState) (newNick : String) : Facts Disk × ConversationState :=
  match existing with
  | none => (facts, moved)
  | some existing => mergeConversation facts existing moved newNick

/-- A mute follows the conversation it was set on. -/
def moveMute (facts : Facts Disk) (oldKey newKey : ConversationKey) : Facts Disk :=
  if oldKey ∈ facts.mutedKeys then
    { facts with mutedKeys := insert newKey (facts.mutedKeys.erase oldKey) }
  else facts

/-- The selection follows the conversation it names. -/
def followSelection (facts : Facts Disk) (oldKey newKey : ConversationKey) : Facts Disk :=
  if facts.selected = some oldKey then { facts with selected := some newKey } else facts

/-- What a welcome resets of the facts of a network. -/
def welcomeFacts (facts : Facts Disk) (networkId currentNick : String) : Facts Disk :=
  let facts :=
    { facts with queryRestorePending := insert networkId facts.queryRestorePending }
  let facts :=
    match facts.currentNicks networkId with
    | some current => facts.rememberSelfNick networkId current
    | none => facts
  let facts := facts.rememberSelfNick networkId currentNick
  { facts with
    currentNicks := Function.update facts.currentNicks networkId (some currentNick)
    presence := Function.update facts.presence networkId
      ((facts.presence networkId).map fun _ => ∅)
    selfAway := facts.selfAway.erase networkId }

/-- What a welcome resets of a conversation: nobody is on a channel any more. -/
def welcomeState (conv : ConversationState) : ConversationState :=
  { leftState conv with typing := ∅ }

namespace EventReducer

/-- Drop the presence of nicks that no channel shows any more. -/
def forgetUnseen (reducer : EventReducer Disk) (networkId : String) (nicks : List String) :
    EventReducer Disk :=
  match reducer.facts.presence networkId with
  | none => reducer
  | some _ =>
      { reducer with
        facts := reducer.facts.onPresence networkId fun presence =>
          nicks.foldl (fun presence nick =>
            if presence.contains nick ∧ isVisible reducer.conversations networkId nick = false then
              presence.erase nick
            else presence) presence }

/-- Drop the typing hint of one nick on every conversation of a network. -/
def clearTypingEverywhere (reducer : EventReducer Disk) (networkId normalizedNick : String) :
    EventReducer Disk :=
  reducer.sweepNetwork networkId fun facts conv =>
    (facts, { conv with typing := conv.typing.erase normalizedNick })

/-- Move a typing hint to the new spelling of a nick. -/
def rekeyTyping (reducer : EventReducer Disk)
    (networkId oldNormalized newNormalized newDisplay : String) : EventReducer Disk :=
  reducer.sweepNetwork networkId fun facts conv =>
    match conv.typing[oldNormalized]? with
    | none => (facts, conv)
    | some hint =>
        (facts, { conv with
          typing := (conv.typing.erase oldNormalized).insert newNormalized
            { hint with displayNick := newDisplay } })

/-- Store the identity facts of a nick from a WHO or a WHOIS. -/
def reduceNickFacts (reducer : EventReducer Disk) (networkId nick : String)
    (realname : Option String) (serverOperator : Option Bool) : EventReducer Disk :=
  let normalized := reducer.facts.normalize networkId nick
  if normalized = "" then reducer
  else
    let facts :=
      match realname with
      | some realname => reducer.facts.onPresence networkId (·.setRealname normalized realname)
      | none => reducer.facts
    let facts :=
      match serverOperator with
      | some operator => facts.onPresence networkId (·.setServerOperator normalized operator)
      | none => facts
    { reducer with facts }

/-- Store a change of account. -/
def reduceAccount (reducer : EventReducer Disk) (networkId nick account : String) :
    EventReducer Disk :=
  let normalized := reducer.facts.normalize networkId nick
  if normalized = "" then reducer
  else
    { reducer with
      facts := reducer.facts.onPresence networkId (·.setAccount normalized account) }

/-- Record the user's own away state. -/
def reduceSelfAway (reducer : EventReducer Disk) (networkId : String) (away : Bool) :
    EventReducer Disk :=
  { reducer with
    facts.selfAway :=
      if away then insert networkId reducer.facts.selfAway
      else reducer.facts.selfAway.erase networkId }

/-- Record one metadata value of a nick. -/
def reduceMemberMetadata (reducer : EventReducer Disk) (networkId nick key value : String) :
    EventReducer Disk :=
  let normalized := reducer.facts.normalize networkId nick
  { reducer with
    facts := reducer.facts.onPresence networkId (·.setMetadata normalized key value) }

/-- Record an away notice. A placeholder must not erase a realname that a later WHOIS can
match. -/
def reduceAway [Platform] (reducer : EventReducer Disk) (networkId nick : String)
    (away : Option Away) (realname : Option String) (realnameOnly : Bool) :
    EventReducer Disk :=
  let normalized := reducer.facts.normalize networkId nick
  let facts :=
    if realnameOnly then reducer.facts
    else reducer.facts.onPresence networkId (·.setAway normalized away)
  let facts :=
    match realname with
    | none => facts
    | some incoming =>
        if meaningfulRealname incoming nick ∨
            meaningfulRealname (facts.nickPresence networkId nick).realname nick = false then
          facts.onPresence networkId (·.setRealname normalized incoming)
        else facts
  { reducer with facts }

/-- Record or clear one typing hint. It never creates a conversation. -/
def reduceTyping (reducer : EventReducer Disk) (key : ConversationKey) (nick : String)
    (phase : TypingPhase) (receivedAt : Instant) : EventReducer Disk :=
  let normalized := reducer.facts.normalize key.networkId nick
  reducer.modify key fun conv =>
    if reducer.facts.isSelf key.networkId nick then
      { conv with typing := conv.typing.erase normalized }
    else
      match storedTypingHint phase receivedAt nick with
      | none => { conv with typing := conv.typing.erase normalized }
      | some hint =>
          { conv with
            typing := (conv.typing.filter fun _ existing =>
              typingHintRetained existing receivedAt).insert normalized hint }

/-- Append a WHOIS block to its conversation. -/
def reduceWhoisTranscript (reducer : EventReducer Disk) (destination : ConversationKey)
    (formattedBody : String) : EventReducer Disk :=
  reducer.onConversation destination fun facts conv => appendWhois facts conv formattedBody

/-- Append an error line to its channel. -/
def reduceChannelError (reducer : EventReducer Disk) (networkId channel body : String) :
    EventReducer Disk :=
  reducer.onConversation (reducer.conversationKey networkId channel) fun facts conv =>
    appendError facts conv body

/-- Move a renamed direct conversation to its new key. -/
def moveDirect (reducer : EventReducer Disk) (oldKey newKey : ConversationKey)
    (newNick : String) : EventReducer Disk :=
  match reducer.conversations[oldKey]? with
  | none => reducer
  | some moved =>
      let conversations := reducer.conversations.erase oldKey
      let (facts, renamed) := landConversation (moveMute reducer.facts oldKey newKey)
        conversations[newKey]? { moved with key := newKey, target := newNick } newNick
      { conversations := conversations.insert newKey renamed
        facts := followSelection facts oldKey newKey }

section Log

variable [Storage Disk]

/-- Record a departure: the member goes, its presence with it, and the caption is added.
The typing hint goes too. -/
def depart (reducer : EventReducer Disk) (networkId : String) (key : ConversationKey)
    (normalized : String) (own : Bool) (caption : String) (membership : Bool) :
    EventReducer Disk :=
  match reducer.conversations[key]? with
  | none => reducer
  | some conv =>
      if conv.isChannel = false then reducer
      else
        let reducer := reducer.modify key fun conv => departMember conv normalized own
        let reducer := reducer.forgetUnseen networkId (departedNicks conv normalized own)
        let reducer := reducer.onConversation key fun facts conv =>
          appendEvent facts conv caption membership membership
        reducer.modify key fun conv =>
          { conv with typing := if own then ∅ else conv.typing.erase normalized }

/-- Record a PART. -/
def reducePart (reducer : EventReducer Disk) (networkId channel nick : String) :
    EventReducer Disk :=
  reducer.depart networkId (reducer.conversationKey networkId channel)
    (reducer.facts.normalize networkId nick) (reducer.facts.isSelf networkId nick)
    (partLine nick) true

/-- Record a KICK. A kick of the user raises an inbox arrival. -/
def reduceKick (reducer : EventReducer Disk) (networkId channel target author reason : String) :
    EventReducer Disk :=
  let key := reducer.conversationKey networkId channel
  let selfKick := reducer.facts.isSelf networkId target
  let kicked := reducer.depart networkId key (reducer.facts.normalize networkId target) selfKick
    (target ++ " was kicked") false
  if selfKick ∧ (reducer.conversations[key]?).any ConversationState.isChannel then
    { kicked with
      facts.inboxArrival := some
        { kind := .kick, actor := author
          body := if reason = "" then "You were kicked" else reason
          networkId, target := channel, msgid := "" } }
  else kicked

/-- Record a QUIT in every shared channel. -/
def reduceQuit (reducer : EventReducer Disk) (networkId nick : String) : EventReducer Disk :=
  let normalized := reducer.facts.normalize networkId nick
  let reducer := reducer.sweepNetwork networkId fun facts conv =>
    if conv.channel.any fun channel => channel.members.contains normalized then
      let conv := conv.onChannel fun channel =>
        { channel with members := channel.members.erase normalized }
      appendEvent facts conv (quitLine nick) true true
    else (facts, conv)
  let reducer := reducer.forgetUnseen networkId [normalized]
  reducer.clearTypingEverywhere networkId normalized

end Log

variable [CharacterClasses]

/-- Reset a network on a new connection and mark its restore pending. -/
def reduceWelcome (reducer : EventReducer Disk) (networkId currentNick : String) :
    EventReducer Disk :=
  let reducer := reducer.dropPendingPlayback networkId
  let reducer := reducer.dropKeptPlayback networkId
  let reducer := reducer.clearClosedNetwork networkId
  let reducer := { reducer with facts := welcomeFacts reducer.facts networkId currentNick }
  let reducer := reducer.sweepNetwork networkId fun facts conv => (facts, welcomeState conv)
  reducer.refreshMentions networkId

variable [Platform] [Storage Disk]

/-- Admit one live chat line. A missing conversation is created only for a cause that may
insert one. -/
def appendChat (reducer : EventReducer Disk) (line : ChatLine) : EventReducer Disk :=
  let cause := if reducer.facts.isSelf line.key.networkId line.author then
    IrcConversationCause.inboundSelf else .inboundOther
  let (reducer, exists_) := reducer.ensureKey line.key line.displayTarget cause
  if exists_ = false then reducer
  else
    reducer.onConversation line.key fun facts conv =>
      if line.msgid ≠ "" ∧ (line.msgid ∈ conv.messageIds ∨
          facts.channelContextBlocksDm line.key conv.isChannel line.msgid) then (facts, conv)
      else
        let conv := conv.know line.msgid
        let row : Message :=
          { kind := line.kind, author := line.author, body := line.body, time := line.timestamp
            serverTime := line.serverTime, msgid := line.msgid
            mentioned := facts.transcriptHighlight line.key.networkId line.author line.kind line.body
            sequence := conv.nextSequence, onlyVisibleToYou := line.onlyVisibleToYou }
        let facts := facts.claimChannelContext line.key conv.isChannel line.msgid
          line.onlyVisibleToYou
        let (facts, conv) := admitLogged facts conv row
        let conv :=
          { conv with
            typing := conv.typing.erase (facts.normalize line.key.networkId line.author) }
        noteChatArrival facts conv line.key
          { author := line.author, body := line.body, kind := line.kind, msgid := line.msgid
            sequence := row.sequence, serverTime := line.serverTime, origin := .live
            history := none }

/-- Fold a message in. -/
def reduceMessage (reducer : EventReducer Disk) (event : ChatEvent) : EventReducer Disk :=
  reducer.appendChat (chatLineOf event .message)

/-- Fold a notice in. -/
def reduceNotice (reducer : EventReducer Disk) (event : ChatEvent) : EventReducer Disk :=
  reducer.appendChat (chatLineOf event .notice)

/-- Fold an action in. -/
def reduceAction (reducer : EventReducer Disk) (event : ChatEvent) : EventReducer Disk :=
  reducer.appendChat (chatLineOf event .action)

/-- Record a JOIN, the account and realname it carries, and the anchor of the user's own
join. -/
def reduceJoin (reducer : EventReducer Disk) (networkId channel nick : String)
    (account realname : Option String) : EventReducer Disk :=
  let normalized := reducer.facts.normalize networkId nick
  let reducer :=
    { reducer with facts := joinFacts reducer.facts networkId normalized account realname }
  let key := reducer.conversationKey networkId channel
  let (reducer, exists_) := reducer.ensureKey key channel .channelState
  if exists_ = false then reducer
  else
    let selfJoin := reducer.facts.isSelf networkId nick
    let shown := if account.isSome then reducer.facts.displayAccount networkId nick else ""
    if (reducer.conversations[key]?).any ConversationState.isChannel = false then reducer
    else
      let reducer := reducer.onConversation key fun facts conv =>
        appendEvent facts (enterMember conv normalized nick selfJoin) (joinLine nick shown)
          (!selfJoin) true
      if selfJoin then reducer.releasePendingPlayback key else reducer

/-- Record a channel topic. The numeric that names its author must not clear it. -/
def reduceTopic (reducer : EventReducer Disk) (networkId channel topic : String)
    (keepExistingTopic : Bool) : EventReducer Disk :=
  let key := reducer.conversationKey networkId channel
  let (reducer, exists_) := reducer.ensureKey key channel .channelState
  if exists_ = false ∨ keepExistingTopic then reducer
  else reducer.modify key fun conv => conv.onChannel fun channel => { channel with topic }

/-- Fold a NAMES batch in. -/
def reduceNames (reducer : EventReducer Disk) (networkId channel : String)
    (names : List Name) (complete : Bool) (now : Instant) : EventReducer Disk :=
  let key := reducer.conversationKey networkId channel
  let (reducer, exists_) := reducer.ensureKey key channel .channelState
  if exists_ = false then reducer
  else
    reducer.modify key fun conv =>
      conv.onChannel (mergeNames reducer.facts networkId names complete now)

/-- Record a channel MODE and apply its rank changes. -/
def reduceMode (reducer : EventReducer Disk) (networkId target author mode : String)
    (arguments : List String) : EventReducer Disk :=
  let key := reducer.conversationKey networkId target
  if reducer.facts.isChannel networkId key.normalizedTarget = false then reducer
  else
    let (reducer, exists_) := reducer.ensureKey key target .channelState
    if exists_ = false then reducer
    else
      let changes := (reducer.facts.isupport networkId).modes.prefixChanges mode arguments
      let caption :=
        if arguments = [] then author ++ " set mode " ++ mode
        else author ++ " set mode " ++ mode ++ " " ++ joinTexts " " arguments
      let reducer := reducer.onConversation key fun facts conv =>
        appendEvent facts conv caption false false
      reducer.modify key fun conv => conv.onChannel (applyRanks reducer.facts networkId changes)

/-- Take the new nick, when the nick that changed is the user's. -/
def takeNick (reducer : EventReducer Disk) (networkId oldNick newNick : String) :
    EventReducer Disk :=
  if reducer.facts.isSelf networkId oldNick then
    ({ reducer with facts := ownNick reducer.facts networkId oldNick newNick }).refreshMentions
      networkId
  else reducer

/-- Move presence and typing from the old nick to the new one. -/
def rekeyNick (reducer : EventReducer Disk) (networkId oldNick newNick : String) :
    EventReducer Disk :=
  let oldNormalized := reducer.facts.normalize networkId oldNick
  let newNormalized := reducer.facts.normalize networkId newNick
  let reducer := reducer.takeNick networkId oldNick newNick
  let reducer :=
    { reducer with
      facts := reducer.facts.onPresence networkId (·.rekey oldNormalized newNormalized) }
  reducer.rekeyTyping networkId oldNormalized newNormalized newNick

/-- Move membership, presence and typing from the old nick to the new one. -/
def renameEverywhere (reducer : EventReducer Disk) (networkId oldNick newNick : String) :
    EventReducer Disk :=
  let oldNormalized := reducer.facts.normalize networkId oldNick
  let newNormalized := reducer.facts.normalize networkId newNick
  (reducer.rekeyNick networkId oldNick newNick).sweepNetwork networkId fun facts conv =>
    renameMember facts conv oldNormalized newNormalized newNick (nickLine oldNick newNick)

/-- Move membership, presence, typing and any direct conversation from the old nick to the
new one. -/
def reduceNick (reducer : EventReducer Disk) (networkId oldNick newNick : String) :
    EventReducer Disk :=
  let oldKey := reducer.conversationKey networkId oldNick
  let newKey := reducer.conversationKey networkId newNick
  let reducer := reducer.renameEverywhere networkId oldNick newNick
  if (reducer.conversations[oldKey]?).any fun conv => !conv.isChannel then
    let reducer := reducer.onConversation oldKey fun facts conv =>
      appendEvent facts { conv with target := newNick } (nickLine oldNick newNick) true true
    if oldKey = newKey then reducer else reducer.moveDirect oldKey newKey newNick
  else reducer

/-- Fold one translated event in. -/
def reduce (reducer : EventReducer Disk) (event : Event) (now : Instant) : EventReducer Disk :=
  match event with
  | .welcome networkId currentNick => reducer.reduceWelcome networkId currentNick
  | .message line => reducer.reduceMessage line
  | .notice line => reducer.reduceNotice line
  | .action line => reducer.reduceAction line
  | .join networkId channel nick account realname =>
      reducer.reduceJoin networkId channel nick account realname
  | .part networkId channel nick => reducer.reducePart networkId channel nick
  | .quit networkId nick => reducer.reduceQuit networkId nick
  | .nick networkId oldNick newNick => reducer.reduceNick networkId oldNick newNick
  | .kick networkId channel target author reason =>
      reducer.reduceKick networkId channel target author reason
  | .topic networkId channel topic keepExistingTopic =>
      reducer.reduceTopic networkId channel topic keepExistingTopic
  | .names networkId channel names complete =>
      reducer.reduceNames networkId channel names complete now
  | .mode networkId target author mode arguments =>
      reducer.reduceMode networkId target author mode arguments
  | .away networkId nick away realname realnameOnly =>
      reducer.reduceAway networkId nick away realname realnameOnly
  | .selfAway networkId away => reducer.reduceSelfAway networkId away
  | .memberMetadata networkId nick key value =>
      reducer.reduceMemberMetadata networkId nick key value
  | .account networkId nick account => reducer.reduceAccount networkId nick account
  | .typing conversation nick phase receivedAt =>
      reducer.reduceTyping conversation nick phase receivedAt
  | .history batch => reducer.reduceHistory batch
  | .whoisTranscript destination formattedBody =>
      reducer.reduceWhoisTranscript destination formattedBody
  | .channelError networkId channel body => reducer.reduceChannelError networkId channel body
  | .nickFacts networkId nick realname serverOperator =>
      reducer.reduceNickFacts networkId nick realname serverOperator

/-- Forget the arrivals of the last event. -/
def forgetArrivals (reducer : EventReducer Disk) : EventReducer Disk :=
  { reducer with facts.mentionArrival := none, facts.inboxArrival := none }

/-- Fold one translated event in, with the arrivals of the last one forgotten. -/
def apply (reducer : EventReducer Disk) (event : Event) (now : Instant) : EventReducer Disk :=
  reducer.forgetArrivals.reduce event now

end EventReducer

end Omairc.Irc.Reducer
