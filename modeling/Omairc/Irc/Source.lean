import Omairc.Irc.Message
import Omairc.Platform

/-!
# Message sources and CTCP payloads

Who sent a message, whether the sender is a network service, and the payloads
between the `\x01` marks of a CTCP query.
-/

namespace Omairc.Irc

open Omairc.Text

/-- The nick that sent a message, or empty for a server and for no source. -/
def prefixNick (message : IrcMessage) : String :=
  match message.msgPrefix with
  | none => ""
  | some source =>
      if !source.nick.isEmpty then wireText source.nick
      else if containsDot (wireText source.raw) then ""
      else wireText source.raw

/-- The nick a message claims: its source nick, or else its raw source. -/
def claimedNick (message : IrcMessage) : String :=
  match message.msgPrefix with
  | none => ""
  | some source => if !source.nick.isEmpty then wireText source.nick else wireText source.raw

/-- The host a CTCP reply is checked against. -/
def ctcpReplyHost (message : IrcMessage) : String :=
  match message.msgPrefix with
  | none => ""
  | some source =>
      if !source.host.isEmpty then wireText source.host
      else if source.nick.isEmpty then wireText source.raw
      else ""

/-- The trailing parameter of a CAP line, split on spaces, after its subcommand. -/
def capabilityTokens (message : IrcMessage) (subcommandIndex : Nat) : List String :=
  if message.params.length ≤ subcommandIndex + 1 then []
  else
    (splitText ' ' (wireText (message.params.getLast?.getD []))).filter fun field => field ≠ ""

/-- Whether a character may begin a nick. -/
def canStartNick (mark : Char) : Bool :=
  mark.isAlpha || "-[]\\`_^{|}".toList.contains mark

/-- Whether a target is a channel under the advertised channel types. With none
advertised, a channel is what cannot begin a nick. -/
def looksLikeChannel (target channelTypes : String) : Bool :=
  match target.toList with
  | [] => false
  | mark :: _ =>
      if channelTypes ≠ "" then channelTypes.toList.contains mark else !canStartNick mark

/-- ASCII case-insensitive suffix match, byte by byte. -/
def endsWithFold (text suffix : String) : Bool :=
  (utf8 suffix).length ≤ (utf8 text).length &&
    ((utf8 text).drop ((utf8 text).length - (utf8 suffix).length)).map toAsciiLowercase ==
      (utf8 suffix).map toAsciiLowercase

/-- A parsed CTCP payload. -/
structure CtcpRequest where
  command : String
  argument : String

/-- The mark around a CTCP payload. -/
def ctcpDelimiter : Char := Char.ofNat 1

/-- What stands between the marks of a CTCP body. -/
def ctcpContent (body : String) : Option String :=
  match body.toList with
  | [] => none
  | first :: rest =>
      if first = ctcpDelimiter ∧ rest.getLast? = some ctcpDelimiter then
        some (String.ofList rest.dropLast)
      else none

/-- Wrap a request into its payload. -/
def ctcpPayload (request : CtcpRequest) : String :=
  let body := if request.argument = "" then request.command
    else request.command ++ " " ++ request.argument
  String.singleton ctcpDelimiter ++ body ++ String.singleton ctcpDelimiter

/-- The argument of the VERSION reply. -/
def ctcpVersionReplyText : String := "https://omairc.app"

variable [Platform]

/-- Whether a source is a network service: a nick ending in `serv`, or a services host. -/
def isServiceIdentity (nick host channelTypes : String) : Bool :=
  if nick ≠ "" && !looksLikeChannel nick channelTypes && endsWithFold nick "serv" then true
  else if host = "" then false
  else
    let folded := Platform.toLowercase host
    folded == "services" || (stripLead "services." folded).isSome

/-- Read a CTCP body. The command is in capitals, the argument keeps its spaces. -/
def parseCtcpRequest (body : String) : Option CtcpRequest :=
  (ctcpContent body).bind fun payload =>
    let (rawCommand, argument) := (splitTextOnce ' ' payload).getD (payload, "")
    let command := Platform.toUppercase (trim rawCommand)
    if command = "" then none else some { command, argument }

end Omairc.Irc
