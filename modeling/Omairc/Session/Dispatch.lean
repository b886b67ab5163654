import Omairc.Session.Batch
import Omairc.Session.Ctcp
import Omairc.Session.Negotiation
import Omairc.Session.ReadMarker

/-!
# Inbound dispatch

One inbound message passes the ignore filter, the invite and feature bookkeeping, the
batch and label routing, and then the handler of its command.
-/

namespace Omairc.Session

open Omairc.Text Omairc.Irc

/-- The numerics that refuse registration. -/
def isRegistrationRefusal (command : String) : Bool :=
  ["432", "433", "436", "437", "451", "462", "465"].contains command

namespace Core

/-- Whether the ignore filter drops a message. -/
def ignores (core : Core) (message : IrcMessage) : Bool :=
  core.ignoreFilter.any fun filter => filter message core.config.networkId core.nickname

/-- Remember the last INVITE. -/
def noteInvite (core : Core) (message : IrcMessage) : Core :=
  if message.command = "INVITE" ∧ message.params.length ≥ 2 then
    let nick := prefixNick message
    let channel := message.textParam (message.params.length - 1)
    if nick ≠ "" ∧ channel ≠ "" then { core with pendingInvite := some ⟨nick, channel⟩ }
    else core
  else core

/-- Report an inbound message before any change it causes. -/
def reportInbound (core : Core) (message : IrcMessage) : Core :=
  core.emit (.inbound core.networkId message (core.correlationLabel message) core.nickname
    core.channelTypes core.now)

/-- Note the end of the welcome burst, after which the case mapping is known. -/
def noteWelcomeEnd (core : Core) (message : IrcMessage) : Core :=
  if message.command = "376" ∨ message.command = "422" then
    { core with features := core.features.markCaseMappingKnown }
  else core

/-- The bookkeeping that every message goes through before it is routed. -/
def prepareMessage (core : Core) (message : IrcMessage) : Core :=
  (((core.noteInvite message).reportInbound message).applyIsupport message).noteWelcomeEnd message

/-- Answer a PING with its token. -/
def answerPing (core : Core) (message : IrcMessage) : Core :=
  match message.params.getLast? with
  | none => core.emit (.errorOccurred core.networkId .protocol "PING message has no token")
  | some token => core.sendLine (utf8 "PONG :" ++ token ++ crlf)

/-- Follow a change of this session's nick. -/
def noteNickChange (core : Core) (message : IrcMessage) : Core :=
  let oldNick := claimedNick message
  let newNick := message.textParam 0
  if message.command = "NICK" ∧ oldNick ≠ "" ∧ newNick ≠ "" ∧
      core.nicksEqual oldNick core.nickname = true then
    { core with nickname := newNick }
  else core

variable [Platform]

/-- The session joined a channel. -/
def noteSelfJoin (core : Core) (channel : String) : Core :=
  let recorded :=
    ((core.bumpHistoryGeneration channel).requestChannelHistory channel).recordAutojoin channel true
  match recorded.pendingInvite with
  | some invite =>
      if recorded.foldChannel channel = recorded.foldChannel invite.channel then
        { recorded with pendingInvite := none }
      else recorded
  | none => recorded

/-- The session left a channel. -/
def noteSelfLeave (core : Core) (channel : String) : Core :=
  ((core.bumpHistoryGeneration channel).forgetChannelHistory channel).recordAutojoin channel false

/-- Follow the session's own membership, and a key that no longer works. -/
def noteMembership (core : Core) (message : IrcMessage) (selfPrefixed : Bool) : Core :=
  let channel := message.textParam 0
  if message.command = "JOIN" ∧ selfPrefixed = true then
    if channel = "" then core else core.noteSelfJoin channel
  else if message.command = "PART" ∧ selfPrefixed = true then
    if channel = "" then core else core.noteSelfLeave channel
  else if message.command = "KICK" ∧ core.isSelf (message.textParam 1) = true then
    if channel = "" then core else core.noteSelfLeave channel
  else if message.command = "475" ∧ message.params.length ≥ 2 then
    core.dropStoredAutojoinKey (message.textParam 1)
  else core

/-- Deliver a message that no protocol handler consumed. -/
def deliverMessage (core : Core) (message : IrcMessage) : Core :=
  let renamed := core.noteNickChange message
  let failed := if message.command = "FAIL" then
      (renamed.handleChatHistoryFail message).handleReadMarkerFail message
    else renamed
  let probed := if message.command = "366" ∧ message.params.length ≥ 2 then
      failed.probeChannelAway (message.textParam 1)
    else failed
  let received := probed.emitMessageReceived message
  (received.noteMembership message (received.selfPrefixed message)).finishRequestLabel
    ((message.tagText "label").getD "")

/-- Whether a registration is under way. -/
def registrationHandshake (core : Core) : Bool :=
  [SessionState.connecting, .stsUpgrading, .capLs, .capReq, .sasl, .registering].contains core.state

/-- Fail a registration that the server refused, unless another nick can be tried. -/
def handleRefusal (core : Core) (message : IrcMessage) : Core :=
  let refuse (core : Core) : Core :=
    core.fail .registration
      (core.serverSentenceOr message
        ("IRC registration was refused (" ++ wireText (utf8 message.command) ++ ")")) false
  if message.command = "433" then
    match core.tryRegistrationNickFallback with
    | (retried, true) => retried
    | (exhausted, false) => refuse exhausted
  else refuse core

/-- Handle the server's ERROR. -/
def handleError (core : Core) (message : IrcMessage) : Core :=
  let received := core.emitMessageReceived message
  let text := received.serverSentenceOr message "IRC server reported an error"
  if received.registrationHandshake then received.fail .registration text false
  else received.fail .network text true

/-- Registration without capabilities, for a server that does not know CAP. -/
def registerWithoutCap (core : Core) : Core :=
  ({ core with capabilityNegotiationEnded := true }.cancelTimer .capability).sendRegistration

/-- Run the handler of a message's command. -/
def handleCommand (core : Core) (message : IrcMessage) : Core :=
  let command := message.command
  if command = "CAP" then core.handleCap message
  else if command = "AUTHENTICATE" then core.handleAuthenticate message
  else if command = "001" then core.handleWelcome message
  else if command = "903" then core.handleSaslSuccess
  else if command = "774" then core.handleMetadataSyncLater message
  else if command = "904" ∨ command = "905" then
    core.fail .authentication "SASL authentication failed" false
  else if command = "421" ∧ (message.paramIndex "CAP").isSome = true ∧ core.state = .capLs then
    core.registerWithoutCap
  else if command = "464" then
    core.fail .authentication "Server password or authentication was rejected" false
  else if isRegistrationRefusal command = true ∧ core.state ≠ .registered then
    core.handleRefusal message
  else if command = "ERROR" then core.handleError message
  else core.deliverMessage message

/-- Answer a CTCP query addressed to this user; true when the message is consumed. -/
def consumeCtcp (core : Core) (message : IrcMessage) : Core × Bool :=
  if message.command = "PRIVMSG" ∧ message.params.length ≥ 2 ∧
      core.nicksEqual (message.textParam 0) core.nickname = true then
    core.answerCtcp message
  else (core, false)

/-- Route a message past the replies that consume it, to the handler of its command. -/
def routeMessage (core : Core) (message : IrcMessage) : Core :=
  if message.command = "ACK" then core.finishRequestLabel ((message.tagText "label").getD "")
  else if message.command = "PING" then core.answerPing message
  else if message.command = "PONG" ∧ core.ping.answersProbe message = true then
    core.armPingWatchdog
  else
    match core.deliverReadMarker message with
    | (delivered, true) => delivered
    | (undelivered, false) =>
        match undelivered.consumeCtcp message with
        | (consumed, true) => consumed
        | (unconsumed, false) => unconsumed.handleCommand message

/-- Dispatch one inbound message. -/
def handleMessage (core : Core) (message : IrcMessage) : Core :=
  if core.ignores message then core
  else
    let prepared := core.prepareMessage message
    if message.command = "BATCH" then prepared.handleBatch message
    else
      match prepared.captureInBatch message with
      | (captured, true) => captured
      | (uncaptured, false) => uncaptured.routeMessage message

/-- Parse one frame and dispatch it, or report that it is malformed. -/
def handleFrame (core : Core) (frame : Bytes) : Core :=
  match parse frame with
  | .ok message => core.handleMessage message
  | .error error => core.emitProtocolError "message" error frame frame.length

/-- Handle the frames of one read. An STS upgrade drops the rest of them. -/
def handleFrames (core : Core) : List Bytes → Core
  | [] => core
  | frame :: rest =>
      if core.state = .stsUpgrading then core else (core.handleFrame frame).handleFrames rest

/-- Take one read: restart the silence window, feed the framer and report its faults.
The frames of the read are left to be handled. -/
def beginRead (core : Core) (bytes : Bytes) : Core × List Bytes :=
  let watched := if core.ping = .watching then core.armPingWatchdog else core
  let (framer, result) := watched.framer.feed bytes
  (result.faults.foldl (fun core fault =>
    core.emitProtocolError "frame" fault.error fault.preview fault.byteCount)
      { watched with framer }, result.frames)

/-- Handle the bytes of one read. -/
def handleBytes (core : Core) (bytes : Bytes) : Core :=
  let (read, frames) := core.beginRead bytes
  read.handleFrames frames

end Core

end Omairc.Session
