import Omairc.Controller.Selection

/-!
# The inbound side of the controller

How a translated event is folded in and what it hands up, the welcome, ISUPPORT and the end
of the MOTD, and the direct messages that a history listing opens and drops.
-/

namespace Omairc

open Omairc.Irc Omairc.Irc.Reducer Omairc.Storage Omairc.Text

variable {Log : Type}

/-- The network an event belongs to. -/
def Irc.Event.networkId : Event → String
  | .welcome networkId _ | .join networkId _ _ _ _ | .part networkId _ _ | .quit networkId _
  | .nick networkId _ _ | .kick networkId _ _ _ _ | .topic networkId _ _ _
  | .names networkId _ _ _ | .mode networkId _ _ _ _ | .away networkId _ _ _ _
  | .selfAway networkId _ | .memberMetadata networkId _ _ _ | .account networkId _ _
  | .channelError networkId _ _ | .nickFacts networkId _ _ _ => networkId
  | .message line | .notice line | .action line => line.conversation.networkId
  | .typing conversation _ _ _ => conversation.networkId
  | .history batch => batch.conversation.networkId
  | .whoisTranscript destination _ => destination.networkId

/-- The chat line of an event, if it is one. -/
def Irc.Event.chatLine : Event → Option ChatEvent
  | .message line | .notice line | .action line => some line
  | _ => none

/-- Whether an event is a typing hint. -/
def Irc.Event.isTyping : Event → Bool
  | .typing _ _ _ _ => true
  | _ => false

/-- Apply one ISUPPORT token. -/
def Irc.Reducer.Isupport.applyToken (advertised : Isupport) (token : String) : Isupport where
  features := advertised.features.applyToken token
  modes := advertised.modes.applyToken token

namespace Controller

/-- Give the lines and batches of an event the key of their target. The translator reads it
under the features in force. -/
def address (controller : Controller Log) : Event → Event
  | .message line => .message { line with conversation := keyOf line }
  | .notice line => .notice { line with conversation := keyOf line }
  | .action line => .action { line with conversation := keyOf line }
  | .history batch =>
      .history { batch with
        conversation :=
          controller.reducer.conversationKey batch.conversation.networkId batch.target }
  | event => event
where
  keyOf (line : ChatEvent) : ConversationKey :=
    controller.reducer.conversationKey line.conversation.networkId line.target

section Lists

variable [Platform]

/-- A nick change moves the closed direct messages with the person. -/
def rekeyNickLists (controller : Controller Log) (networkId old new : String) :
    Controller Log :=
  controller.onClosed fun closed => closed.rekey networkId old new (controller.caseMapping networkId)

/-- A line the user sent into an existing direct message is worth remembering. -/
def noteSelfAuthoredDirect (controller : Controller Log) (networkId author target : String) :
    Controller Log :=
  if (controller.caseMapping networkId).equals author (controller.currentNick networkId) = false then
    controller
  else if (controller.find (controller.reducer.conversationKey networkId target)).any
      fun conv => !conv.isChannel then controller.rememberOpenDirect networkId target
  else controller

/-- The direct message the user closed that a line from someone else is about to bring
back. -/
def otherReopenedDirect (controller : Controller Log) (event : Event) :
    Option (String × String) :=
  match event.chatLine with
  | none => none
  | some line =>
      let key := line.conversation
      let mapping := controller.caseMapping key.networkId
      let stored := if line.target = "" then key.normalizedTarget else line.target
      let closed := controller.reducer.facts.disk.closed
      if (controller.features key.networkId).isChannel key.normalizedTarget ∨
          mapping.equals line.author (controller.currentNick key.networkId) ∨
          (controller.find key).isSome ∨
          (closed.contains key.networkId stored mapping = false ∧
            closed.contains key.networkId key.normalizedTarget mapping = false) then none
      else some (key.networkId, stored)

/-- Remember the direct message that was brought back, if it is there. -/
def keepReopened (controller : Controller Log) : Option (String × String) → Controller Log
  | none => controller
  | some (networkId, target) =>
      if (controller.find (controller.reducer.conversationKey networkId target)).any
          fun conv => !conv.isChannel then controller.rememberOpenDirect networkId target
      else controller

/-- Take the kept replay lines, and remember the queries whose replay held a line from the
user. -/
def noteKeptReplay (controller : Controller Log) : Controller Log :=
  let (reducer, queries) := controller.reducer.takeKeptReplay.1.takeRememberedQueries
  queries.foldl (fun controller query =>
    if (controller.find (controller.reducer.conversationKey query.networkId query.target)).isSome
    then controller.rememberOpenDirect query.networkId query.target
    else controller) { controller with reducer }

/-- What the saved lists take from an event that was folded in. -/
def noteLists (controller : Controller Log) (event : Event) (reopened : Option (String × String)) :
    Controller Log :=
  let rekeyed :=
    match event with
    | .nick networkId old new => controller.rekeyNickLists networkId old new
    | _ => controller
  let authored :=
    match event.chatLine with
    | some line => rekeyed.noteSelfAuthoredDirect line.conversation.networkId line.author line.target
    | none => rekeyed
  (authored.keepReopened reopened).noteKeptReplay

end Lists

/-- The first conversation the reducer holds claims the selection and takes the transcript
off the console. -/
def claimFirstConversation (controller : Controller Log) : Controller Log :=
  match controller.reducer.conversations.keys.head? with
  | none => controller
  | some key =>
      match controller.find key with
      | none => controller
      | some conv =>
          { controller with
            selected := some key
            selectedTarget := conv.target
            reducer := controller.reducer.markSelected key
            consoleOpen := false }

/-- Release a stale NAMES sync of the selection, and take what the event planted. -/
def takeArrivals (controller : Controller Log) (now : Instant) : Controller Log :=
  controller.onReducer fun reducer =>
    (reducer.releaseStaleNamesSync controller.selected now).takeMentionArrival.1.takeInboxArrival.1

section Events

variable [Platform] [CharacterClasses] [TranscriptLog Log]

/-- Fold one translated event into the reducer and handle what it hands up. -/
def apply (controller : Controller Log) (event : Event) (now : Instant) : Controller Log :=
  let noted := (controller.onReducer fun reducer => reducer.apply event now).noteLists event
    (controller.otherReopenedDirect event)
  let claimed :=
    if noted.selected = none ∧ event.isTyping = false then noted.claimFirstConversation else noted
  claimed.takeArrivals now

/-- Part a channel whose cancelled JOIN just landed. A closed channel drops its row, and a
left one stays as a row that is not joined. -/
def dropCancelledJoin (controller : Controller Log) (link : Link) (networkId channel : String)
    (key : ConversationKey) : Controller Log :=
  let parted :=
    if networkId ∈ controller.sessions ∧ link.accepts (.part channel) then
      controller.write networkId (.part channel)
    else controller
  if parted.reducer.facts.isClosed key then (parted.dismissChannel networkId channel).1
  else parted.markChannelLeft networkId channel

/-- The user's own JOIN selects the channel when it answers the pending invite. -/
def onSelfJoin (controller : Controller Log) (link : Link) (networkId channel : String) :
    Controller Log :=
  if networkId ∈ controller.sessions ∧
      link.pendingInvite.any (fun pending =>
        (controller.caseMapping networkId).equals channel pending) then
    controller.select networkId channel
  else controller

/-- The channel of a JOIN by a nick. -/
def joinedBy (mapping : IrcCaseMapping) (current : String) : Event → Option String
  | .join _ channel nick _ _ => if mapping.equals nick current then some channel else none
  | _ => none

/-- The session's nick follows a change of the user's own nick. -/
def followNick (controller : Controller Log) : Event → Controller Log
  | .nick networkId old new =>
      if (controller.caseMapping networkId).equals old (controller.currentNick networkId) then
        { controller with
          currentNicks := Function.update controller.currentNicks networkId (some new) }
      else controller
  | _ => controller

/-- Fold one event of an inbound message in. A JOIN the user cancelled while it was in
flight parts again instead of staying in the channel. -/
def handleEvent (controller : Controller Log) (link : Link) (event : Event) (now : Instant) :
    Controller Log :=
  let networkId := event.networkId
  let ownJoin :=
    joinedBy (controller.caseMapping networkId) (controller.currentNick networkId) event
  let applied := (controller.followNick event).apply event now
  match ownJoin with
  | none => applied
  | some channel =>
      let key := controller.reducer.conversationKey networkId channel
      if key ∈ applied.cancelledJoins then
        ({ applied with cancelledJoins := applied.cancelledJoins.erase key }).dropCancelledJoin link
          networkId channel key
      else if (controller.features networkId).isChannel channel then
        applied.onSelfJoin link networkId channel
      else applied

/-- The welcome. The nick is known and the ISUPPORT state starts over. -/
def onRegistered (controller : Controller Log) (networkId nick : String) (now : Instant) :
    Controller Log :=
  ({ controller with
      currentNicks := Function.update controller.currentNicks networkId (some nick)
      reducer := controller.reducer.setServerFeatures networkId {} }).apply
    (.welcome networkId nick) now

/-- Apply the tokens of an ISUPPORT line: they stand between the nick and the trailing
sentence. -/
def applyIsupport (controller : Controller Log) (networkId : String) (message : IrcMessage) :
    Controller Log :=
  if message.params.length ≤ 2 then controller
  else
    controller.onReducer fun reducer =>
      reducer.setServerFeatures networkId
        (((message.params.drop 1).dropLast.map wireText).foldl Isupport.applyToken
          (reducer.facts.isupport networkId))

/-- Reopen the saved queries that are not loaded. -/
def restoreOpenDirects (controller : Controller Log) (networkId : String)
    (targets : List String) : Controller Log :=
  targets.foldl (fun controller target =>
    if controller.persistableDirectTarget networkId target = false ∨
        (controller.find (controller.reducer.conversationKey networkId target)).isSome then controller
    else (controller.ensureConversation networkId target .restore).1) controller

/-- At the end of the MOTD the case mapping is settled. The first one of a connection
restores the open queries and releases what was held for them. -/
def endMotd (controller : Controller Log) (networkId : String) (targets : Option (List String)) :
    Controller Log :=
  let settled :=
    controller.onReducer fun reducer =>
      let advertised := reducer.facts.isupport networkId
      if advertised.features.caseMappingKnown then reducer
      else
        reducer.setServerFeatures networkId
          { advertised with features := advertised.features.markCaseMappingKnown }
  match targets with
  | none => settled
  | some targets =>
      ((settled.restoreOpenDirects networkId targets).onReducer fun reducer =>
        (reducer.releasePendingQueryPlayback networkId).1).noteKeptReplay

/-- Remove an empty direct message from the reducer. -/
def dropEmptyDirect (controller : Controller Log) (networkId target : String) : Controller Log :=
  let key := controller.reducer.conversationKey networkId target
  if (controller.find key).any fun conv => conv.messages.isEmpty then
    controller.onReducer fun reducer => (reducer.dropDirectMessage key).1
  else controller

/-- Open a direct message that a history listing names. A request the session refused drops
it again. -/
def noteDiscoveredTarget (controller : Controller Log) (networkId name : String)
    (requested : Bool) : Controller Log :=
  if controller.persistableDirectTarget networkId name = false ∨
      (controller.find (controller.reducer.conversationKey networkId name)).isSome then controller
  else
    let (opened, exists_) := controller.ensureConversation networkId name .inboundOther
    if exists_ = false ∨ requested then opened else opened.dropEmptyDirect networkId name

end Events

end Controller

end Omairc
