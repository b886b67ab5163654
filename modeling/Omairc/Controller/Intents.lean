import Omairc.Controller.Inbound

/-!
# The other intents

Joins and parts, sends, mutes, and the networks that come and go.
-/

namespace Omairc

open Omairc.Irc Omairc.Irc.Reducer Omairc.Storage Omairc.Text

variable {Log : Type}

/-- Split on runs of ASCII whitespace. -/
def splitAsciiWhitespaceRuns (text : String) : List String :=
  (text.toList.splitOnP fun character =>
    [' ', '\t', '\n', '\x0b', '\x0c', '\r'].contains character).filterMap fun token =>
      if token.isEmpty then none else some (String.ofList token)

/-- The target of one entry of a join argument: a channel, and a key after whitespace. -/
def joinEntry (features : IrcServerFeatures) (entry : String) : Option IrcJoinTarget :=
  match splitAsciiWhitespaceRuns (trim entry) with
  | [channel] => IrcJoinTarget.make channel none features
  | [channel, key] => IrcJoinTarget.make channel (some key) features
  | _ => none

/-- Split a join argument into validated targets. There is no result when it is empty or
an entry is not valid. -/
def parseJoinTargets (argument : String) (features : IrcServerFeatures) :
    Option (List IrcJoinTarget) :=
  match ((splitText ',' argument).filter fun entry => trim entry ≠ "").mapM (joinEntry features) with
  | some (first :: rest) => some (first :: rest)
  | _ => none

namespace Controller

section Joining

variable [Platform] [CharacterClasses] [TranscriptLog Log]

/-- Write one JOIN. The pending cancellation and the closed mark of the channel go first, and
come back when the line is refused. -/
def joinTarget (controller : Controller Log) (link : Link) (networkId : String)
    (target : IrcJoinTarget) : Controller Log × Bool :=
  let key := controller.reducer.conversationKey networkId target.channel
  let wasClosed := controller.reducer.facts.isClosed key
  let wasCancelled := decide (key ∈ controller.cancelledJoins)
  let cleared :=
    { controller with
      reducer := controller.reducer.clearClosed key
      cancelledJoins := controller.cancelledJoins.erase key }
  if link.accepts (.join target) then (cleared.write networkId (.join target), true)
  else
    ({ cleared with
        reducer := if wasClosed then cleared.reducer.noteClosed key else cleared.reducer
        cancelledJoins :=
          if wasCancelled then insert key cleared.cancelledJoins else cleared.cancelledJoins },
      false)

/-- Write the JOIN of each target in order, and tell whether all were taken. -/
def joinTargets (controller : Controller Log) (link : Link) (networkId : String)
    (targets : List IrcJoinTarget) : Controller Log × Bool :=
  targets.foldl (fun (controller, sent) target =>
    let (controller, wrote) := controller.joinTarget link networkId target
    (controller, wrote && sent)) (controller, true)

/-- The targets of a join: the ones of the argument, or the channel of the pending invite. -/
def joinArgument (features : IrcServerFeatures) (link : Link) (argument : String) :
    Option (List IrcJoinTarget) :=
  if argument = "" then
    (link.pendingInvite.bind fun channel => IrcJoinTarget.make channel none features).map ([·])
  else parseJoinTargets argument features

/-- Join channels. The last one opens and is selected. -/
def dispatchJoin (controller : Controller Log) (link : Link) (networkId argument : String) :
    Controller Log × CommandOutcome :=
  if networkId ∉ controller.sessions ∨ link.registered = false then (controller, .notConnected)
  else
    match joinArgument (controller.features networkId) link argument with
    | none => (controller, .refused)
    | some targets =>
        let (joined, sent) := controller.joinTargets link networkId targets
        match targets.getLast? with
        | some last =>
            if sent then (joined.openJoinedChannel networkId last.channel, .sent)
            else (joined, .refused)
        | none => (joined, .refused)

/-- Join a channel whose invite was accepted or whose name was clicked, and select it. -/
def joinChannel (controller : Controller Log) (link : Link) (networkId channel : String) :
    Controller Log × Bool :=
  if networkId ∉ controller.sessions ∨ link.registered = false then (controller, false)
  else
    match IrcJoinTarget.make channel none (controller.features networkId) with
    | none => (controller, false)
    | some target =>
        if link.accepts (.join target) then
          ((controller.write networkId (.join target)).select networkId channel, true)
        else (controller, false)

/-- The channel a part names, or the selected one. -/
def partChannel (controller : Controller Log) (networkId channel : String) :
    Except CommandOutcome String :=
  if channel ≠ "" then .ok channel
  else if controller.selected = none ∨ controller.isChannel = false then .error .wrongScope
  else if (controller.selected.map ConversationKey.networkId) ≠ some networkId ∨
      controller.shownTarget = "" then .error .refused
  else .ok controller.shownTarget

/-- Part a channel. One the user is in is parted and marked left, and its row stays. One the
user has left sends nothing and cancels any JOIN still in flight. -/
def dispatchPart (controller : Controller Log) (link : Link) (networkId channel : String) :
    Controller Log × CommandOutcome :=
  if networkId ∉ controller.sessions ∨ link.registered = false then (controller, .notConnected)
  else
    match controller.partChannel networkId channel with
    | .error outcome => (controller, outcome)
    | .ok channel =>
        let key := controller.reducer.conversationKey networkId channel
        match controller.channelJoined key with
        | some true =>
            if link.accepts (.part channel) then
              ((controller.write networkId (.part channel)).markChannelLeft networkId channel, .sent)
            else (controller, .refused)
        | some false =>
            ({ controller with cancelledJoins := insert key controller.cancelledJoins }, .sent)
        | none =>
            if link.accepts (.part channel) then
              (controller.write networkId (.part channel), .sent)
            else (controller, .refused)

end Joining

section Sending

variable [Platform] [CharacterClasses] [TranscriptLog Log]

/-- The line a send leaves on its conversation. -/
def echoEvent (line : ChatEvent) : Outgoing → Event
  | .say => .message line
  | .action => .action line
  | .notice => .notice line

/-- Add the local echo of a sent line, when the network did not negotiate it and the
conversation exists. -/
def echoIfPresent (controller : Controller Log) (link : Link) (networkId target body : String)
    (kind : Outgoing) (now : Instant) : Controller Log :=
  let key := controller.reducer.conversationKey networkId target
  if link.echoMessage ∧ kind ≠ .notice then controller
  else if (controller.find key).isNone then controller
  else
    controller.apply (echoEvent
      { conversation := key, author := link.nick, body, timestamp := now, target } kind) now

/-- Send a typed line to the selected conversation. A channel the user has left refuses
it. -/
def sendSelected (controller : Controller Log) (link : Link) (kind : Outgoing) (text : String)
    (now : Instant) : Controller Log × CommandOutcome :=
  match controller.selected with
  | none => (controller, .wrongScope)
  | some key =>
      if key.networkId ∉ controller.sessions then (controller, .wrongScope)
      else if controller.selectedChannelLeft then (controller, .refused)
      else
        let line := ClientLine.chat kind controller.shownTarget text
        if link.accepts line then
          ((controller.write key.networkId line).echoIfPresent link key.networkId
            controller.shownTarget text kind now, .sent)
        else (controller, .refused)

/-- Plain text to the selected conversation. -/
def sendSelectedMessage (controller : Controller Log) (link : Link) (text : String)
    (now : Instant) : Controller Log × CommandOutcome :=
  controller.sendSelected link .say text now

/-- An action to the selected conversation. -/
def dispatchAction (controller : Controller Log) (link : Link) (text : String)
    (now : Instant) : Controller Log × CommandOutcome :=
  controller.sendSelected link .action text now

/-- Open or select a direct message as the user asked. Text is sent into it. -/
def dispatchQuery (controller : Controller Log) (link : Link) (networkId nick text : String)
    (now : Instant) : Controller Log × CommandOutcome :=
  if networkId = "" ∨ nick = "" ∨ (controller.features networkId).isChannel nick then
    (controller, .refused)
  else if text ≠ "" ∧ (networkId ∉ controller.sessions ∨ link.registered = false) then
    (controller, .notConnected)
  else
    let (opened, exists_) := controller.openQuery networkId nick
    if exists_ = false then (opened, .refused)
    else if text = "" then (opened, .sent)
    else opened.sendSelectedMessage link text now

/-- Send a line to a target without opening or selecting a conversation. A private message
is a query worth reopening. -/
def quietSend (controller : Controller Log) (link : Link) (networkId target text : String)
    (kind : Outgoing) (now : Instant) : Controller Log × CommandOutcome :=
  if networkId = "" ∨ target = "" ∨ text = "" then (controller, .refused)
  else if networkId ∉ controller.sessions ∨ link.registered = false then
    (controller, .notConnected)
  else if link.accepts (.chat kind target text) then
    let sent := controller.write networkId (.chat kind target text)
    let remembered := if kind = .say then sent.rememberOpenDirect networkId target else sent
    let (opened, _) := remembered.ensureConversation networkId target .quietSend
    (opened.echoIfPresent link networkId target text kind now, .sent)
  else (controller, .refused)

end Sending

section Networks

/-- Store a mute, or lift one, and set the flag of the conversation to match. Tells whether
the list changed. -/
def applyMute (controller : Controller Log) (networkId target : String) (muted : Bool) :
    Controller Log × Bool :=
  if networkId = "" ∨ target = "" then (controller, false)
  else
    let mapping := controller.caseMapping networkId
    let (mutes, changed) :=
      if muted then controller.mutes.add networkId target mapping
      else controller.mutes.remove networkId target mapping
    (({ controller with mutes }).onReducer fun reducer =>
      reducer.setMuted (reducer.conversationKey networkId target) muted, changed)

/-- Wire a fresh session to the stores: the highlight words and the stored mutes. -/
def attachStoreHooks [CharacterClasses] (controller : Controller Log) (networkId : String)
    (words : List String) : Controller Log :=
  let highlighted :=
    if networkId = "" then controller
    else controller.onReducer fun reducer => reducer.setHighlightWords networkId words
  highlighted.onReducer fun reducer =>
    (highlighted.mutes.entries networkId).foldl (fun reducer target =>
      reducer.setMuted (reducer.conversationKey networkId target) true) reducer

/-- Create the session of a network. A network needs an id. -/
def createSession [CharacterClasses] (controller : Controller Log) (networkId : String)
    (words : List String) : Controller Log :=
  if networkId = "" then controller
  else
    ({ controller with
        sessions := insert networkId controller.sessions }).attachStoreHooks networkId words

/-- Discard the session of a network. -/
def discardSession (controller : Controller Log) (networkId : String) : Controller Log :=
  { controller with sessions := controller.sessions.erase networkId }

/-- Start the demo peer of a network again. -/
def restartDemo [CharacterClasses] (controller : Controller Log) (networkId : String)
    (words : List String) : Controller Log :=
  ({ controller with
      cancelledJoins := controller.cancelledJoins.filter fun key =>
        key.networkId ≠ networkId }).createSession networkId words

/-- Forget a network that was removed. -/
def forgetNetwork (controller : Controller Log) (networkId : String) : Controller Log :=
  if networkId = "" then controller
  else
    let forgotten :=
      ((controller.discardSession networkId).onClosed fun closed =>
        closed.forget networkId).onReducer fun reducer => reducer.forgetNetwork networkId
    let inside := controller.selected.any fun key => key.networkId == networkId
    { forgotten with
      cancelledJoins := controller.cancelledJoins.filter fun key => key.networkId ≠ networkId
      currentNicks := Function.update controller.currentNicks networkId none
      networkOrder := controller.networkOrder.filter (· ≠ networkId)
      consoleNetwork := if controller.consoleNetwork = networkId then "" else controller.consoleNetwork
      consoleOpen := if controller.consoleNetwork = networkId then false else controller.consoleOpen
      selected := if inside then none else controller.selected
      selectedTarget := if inside then "" else controller.selectedTarget }

/-- The controller as it starts over what an earlier run stored. -/
def start (disk : Stored Log) (log : Bool) (mutes : CaseListStore) (networkOrder : List String) :
    Controller Log where
  reducer := { facts := { disk, log, closedStore := true } }
  mutes
  networkOrder

/-- Start over, as the next run of the client does. -/
def restart (controller : Controller Log) : Controller Log :=
  start controller.reducer.facts.disk controller.reducer.facts.log controller.mutes
    controller.networkOrder

end Networks

end Controller

end Omairc
