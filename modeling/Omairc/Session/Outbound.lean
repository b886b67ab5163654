import Omairc.Session.Ctcp
import Omairc.Session.Autojoin
import Omairc.Session.History
import Omairc.Session.Publish
import Omairc.Session.ReadMarker

/-!
# The public senders

One operation for each boolean send method of the session, and `send`, which runs it.
An operation reports false when it was refused.
-/

namespace Omairc.Session

open Omairc.Text Omairc.Irc

/-- A call of a boolean send method, with its arguments. -/
inductive SendOperation
  | privmsg (target body : String)
  | notice (target body : String)
  | action (target body : String)
  | ctcp (target command argument requestLabel : String)
  | typing (target : String) (phase : TypingPhase)
  | channelMode (request : IrcChannelModeRequest)
  | join (target : IrcJoinTarget)
  | part (channel : String)
  | kick (channel nick reason : String)
  | kickban (channel mask nick reason : String)
  | invite (nick channel : String)
  | setTopic (channel topic : String)
  | setAway (reason : String)
  | markAway (reason : String)
  | clearAway
  | clearOwnMetadata (key : String)
  | changeNick (nick : String)
  | whois (nick requestLabel : String)
  | monitor (modifier : Char) (nicks : List String)
  | list (mask : String)
  | raw (line : String)
  | olderHistory (target msgid : String) (timestamp : Option Instant)
  | historyAfter (target : String) (after : Instant)
  | historyLatest (target : String)
  | historyTargets (start stop : Instant)
  | readMarkerGet (target : String)

/-- The command of a MODE query or change. -/
def channelModeCommand (request : IrcChannelModeRequest) : String :=
  if request.query then "MODE " ++ request.channel
  else joinTexts " " (["MODE", request.channel, request.modes] ++ request.parameters)

/-- The command of a KICK with an optional reason. -/
def kickCommand (channel nick reason : String) : String :=
  if reason = "" then "KICK " ++ channel ++ " " ++ nick
  else "KICK " ++ channel ++ " " ++ nick ++ " :" ++ reason

/-- The MODE that bans a mask. -/
def banRequest (channel mask : String) : IrcChannelModeRequest where
  channel := channel
  modes := "+b"
  parameters := [mask]

/-- The start of a MONITOR list line. -/
def monitorLead (mark : Char) : String := "MONITOR " ++ String.singleton mark ++ " "

/-- The MONITOR line of a list of nicks. -/
def monitorCommand (lead : String) (nicks : List String) : String := lead ++ joinTexts "," nicks

namespace Core

/-- Send a command given as a text, without a label. -/
def sendText (core : Core) (command : String) : Core × Bool := core.sendCommand (utf8 command) ""

/-- Write a NOTICE. -/
def sendNotice (core : Core) (target body : String) : Core × Bool :=
  if target = "" ∨ body = "" then (core, false)
  else core.sendTrailingBody (utf8 ("NOTICE " ++ target ++ " :")) (utf8 body) [] ""

/-- Write a CTCP ACTION, and note it for the typing pace. -/
def sendAction (core : Core) (target body : String) : Core × Bool :=
  if !isValidPrivmsgTarget target || body = "" then (core, false)
  else
    match core.sendTrailingBody
        (utf8 ("PRIVMSG " ++ target ++ " :" ++ String.singleton ctcpDelimiter ++ "ACTION "))
        (utf8 body) (utf8 (String.singleton ctcpDelimiter)) "" with
    | (sent, true) => (sent.noteMessageSent target, true)
    | (refused, false) => (refused, false)

/-- Write a MODE query or change. -/
def sendChannelMode (core : Core) (request : IrcChannelModeRequest) : Core × Bool :=
  core.sendText (channelModeCommand request)

/-- Write a KICK. -/
def kick (core : Core) (channel nick reason : String) : Core × Bool :=
  if channel = "" ∨ nick = "" then (core, false) else core.sendText (kickCommand channel nick reason)

/-- Write a ban, then a KICK. -/
def kickban (core : Core) (channel mask nick reason : String) : Core × Bool :=
  if channel = "" ∨ mask = "" ∨ nick = "" then (core, false)
  else
    match core.sendChannelMode (banRequest channel mask) with
    | (banned, true) => banned.kick channel nick reason
    | (refused, false) => (refused, false)

/-- Write AWAY with a reason, or clear away. -/
def setAwayLocked (core : Core) (reason : String) : Core × Bool :=
  if trim reason = "" then core.sendText "AWAY" else core.sendText ("AWAY :" ++ trim reason)

/-- Pack nicks into MONITOR lines, sending each line once it is full. -/
def packMonitor (core : Core) (lead : String) (batch : List String) : List String → Core × Bool
  | [] => if batch.isEmpty then (core, false) else core.sendText (monitorCommand lead batch)
  | nick :: rest =>
      if nick = "" then (core, false)
      else if byteLength (monitorCommand lead (batch ++ [nick])) + 2 > maxClassicFrameBytes then
        if batch.isEmpty then (core, false)
        else
          match core.sendText (monitorCommand lead batch) with
          | (refused, false) => (refused, false)
          | (sent, true) =>
              if byteLength lead + byteLength nick + 2 > maxClassicFrameBytes then (sent, false)
              else sent.packMonitor lead [nick] rest
      else core.packMonitor lead (batch ++ [nick]) rest

/-- Write a MONITOR command. -/
def sendMonitorLocked (core : Core) (modifier : Char) (nicks : List String) : Core × Bool :=
  let mark := modifier.toUpper
  if mark = 'C' ∨ mark = 'L' ∨ mark = 'S' then
    if nicks ≠ [] then (core, false) else core.sendText ("MONITOR " ++ String.singleton mark)
  else if mark = '+' ∨ mark = '-' then
    if nicks.isEmpty then (core, false) else core.packMonitor (monitorLead mark) [] nicks
  else (core, false)

/-- Write LIST, with an optional mask. -/
def listChannels (core : Core) (mask : String) : Core × Bool :=
  let trimmed := trim mask
  if trimmed.toList.any fun character => character == '\r' || character == '\n' then (core, false)
  else if trimmed = "" then core.sendText "LIST"
  else core.sendText ("LIST " ++ trimmed)

/-- Write a WHOIS, optionally labeled. -/
def sendWhois (core : Core) (nick requestLabel : String) : Core × Bool :=
  let trimmed := trim nick
  if trimmed = "" then (core, false)
  else core.sendCommand (utf8 ("WHOIS " ++ trimmed ++ " " ++ trimmed)) requestLabel

/-- Write AWAY with a reason or with the server's default one. -/
def markAway (core : Core) (reason : String) : Core × Bool :=
  if trim reason = "" then core.sendText "AWAY :" else core.sendText ("AWAY :" ++ trim reason)

/-- Begin a labeled request; the label is empty when the capability is off. -/
def startLabeledRequest (core : Core) : Core × String :=
  if .labeledResponse ∉ core.caps.enabled then (core, "") else core.beginLabeledRequest

variable [Platform]

/-- Run a send method. -/
def send (core : Core) : SendOperation → Core × Bool
  | .privmsg target body => core.sendPrivmsgLocked target body
  | .notice target body => core.sendNotice target body
  | .action target body => core.sendAction target body
  | .ctcp target command argument requestLabel =>
      core.sendCtcp target command argument requestLabel
  | .typing target phase => core.sendTyping target phase
  | .channelMode request => core.sendChannelMode request
  | .join target => core.joinLocked target
  | .part channel => if channel = "" then (core, false) else core.sendText ("PART " ++ channel)
  | .kick channel nick reason => core.kick channel nick reason
  | .kickban channel mask nick reason => core.kickban channel mask nick reason
  | .invite nick channel =>
      if nick = "" ∨ channel = "" then (core, false)
      else core.sendText ("INVITE " ++ nick ++ " " ++ channel)
  | .setTopic channel topic =>
      if channel = "" ∨ topic = "" then (core, false)
      else core.sendText ("TOPIC " ++ channel ++ " :" ++ topic)
  | .setAway reason => core.setAwayLocked reason
  | .markAway reason => core.markAway reason
  | .clearAway => core.setAwayLocked ""
  | .clearOwnMetadata key =>
      let (cleared, value) := core.setOwnMetadata key ""
      (cleared, value.isSome)
  | .changeNick nick => if nick = "" then (core, false) else core.sendText ("NICK " ++ nick)
  | .whois nick requestLabel => core.sendWhois nick requestLabel
  | .monitor modifier nicks => core.sendMonitorLocked modifier nicks
  | .list mask => core.listChannels mask
  | .raw line => core.sendText line
  | .olderHistory target msgid timestamp => core.requestOlderHistory target msgid timestamp
  | .historyAfter target after => core.requestHistoryAfter target after
  | .historyLatest target => core.requestHistoryLatest target
  | .historyTargets start stop => core.requestHistoryTargets start stop
  | .readMarkerGet target => core.requestReadMarkerGet target

end Core

end Omairc.Session
