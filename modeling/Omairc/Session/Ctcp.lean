import Omairc.Session.Send

/-!
# CTCP queries and malformed lines

Answers to CTCP queries, at most one for each nick in five seconds, and the bounded,
redacted texts under which malformed lines and refusals are reported.
-/

namespace Omairc.Session

open Omairc.Text Omairc.Irc

variable [Platform]

/-- The trailing sentence of a registration refusal or an ERROR, trimmed. -/
def registrationSentence (message : IrcMessage) : Option String :=
  let count := message.params.length
  let minimum := match message.command with
    | "432" | "433" | "436" | "437" => 3
    | "451" | "462" | "465" => 2
    | _ => 1
  if count < minimum then none
  else
    let reason := trim (message.textParam (count - 1))
    if reason = "" then none else some reason

/-- Bytes of a malformed line that are shown as they are. -/
def isPreviewByte (byte : UInt8) : Bool := byte == 9 || (0x20 ≤ byte && byte < 0x7F)

/-- A bounded, redacted preview of a malformed line. -/
def previewWire (preview : Bytes) (byteCount : Nat) (channelTypes : String) : String :=
  let shownWith (hidden : UInt8) : String :=
    wireText (preview.map fun byte => if isPreviewByte byte then byte else hidden)
  let stripped := wireText (preview.filter isPreviewByte)
  let result := ((Platform.redactPreviewLine stripped channelTypes).or
    (Platform.redactPreviewLine (shownWith 32) channelTypes)).getD (shownWith 63)
  if byteCount > preview.length then result ++ "…" else result

/-- The text of a protocol error. -/
def describeMalformed (kind : String) (error : IrcError) (preview : Bytes) (byteCount : Nat)
    (channelTypes : String) : String :=
  let text := "Malformed IRC " ++ kind ++ ": " ++ error.name ++ " (" ++ toString byteCount ++
    " bytes)"
  let shown := previewWire preview byteCount channelTypes
  if shown = "" then text else text ++ ". Preview: " ++ shown

namespace Core

/-- Report a malformed frame or message. -/
def emitProtocolError (core : Core) (kind : String) (error : IrcError) (preview : Bytes)
    (byteCount : Nat) : Core :=
  core.emit (.errorOccurred core.networkId .protocol
    (describeMalformed kind error preview byteCount core.channelTypes))

/-- The server's sentence on a refusal or ERROR, when it is safe to show. -/
def serverSentenceOr (core : Core) (message : IrcMessage) (fallback : String) : String :=
  match registrationSentence message with
  | none => fallback
  | some reason =>
      if !Platform.allowsTranscript reason core.channelTypes then fallback
      else if (Platform.redactPreviewLine reason core.channelTypes).isSome then fallback
      else reason

/-- Whether a CTCP reply may go to a nick now; records the reply time when it may. -/
def allowCtcpReply (core : Core) (nick : String) : Core × Bool :=
  let key := Platform.toLowercase nick
  if (core.ctcpReplyClock[key]?).any fun last => core.now - last < ctcpReplyInterval then
    (core, false)
  else ({ core with ctcpReplyClock := core.ctcpReplyClock.insert key core.now }, true)

/-- The reply payload of a CTCP request, if it is answered. -/
def ctcpReplyPayload (core : Core) (request : CtcpRequest) : Option String :=
  match request.command with
  | "PING" =>
      if byteLength request.argument > ctcpPingPayloadMaxBytes then none
      else some (ctcpPayload { command := "PING", argument := request.argument })
  | "TIME" =>
      some (ctcpPayload
        { command := "TIME", argument := Platform.formatLocal "%a, %d %b %Y %H:%M:%S %z" core.now })
  | "VERSION" => some (ctcpPayload { command := "VERSION", argument := ctcpVersionReplyText })
  | _ => none

/-- Answer a CTCP query sent to this user; true when the message is consumed. -/
def answerCtcp (core : Core) (message : IrcMessage) : Core × Bool :=
  match parseCtcpRequest (message.textParam 1) with
  | none => (core, false)
  | some request =>
      if request.command = "ACTION" then (core, false)
      else
        let sender := prefixNick message
        if sender = "" || isServiceIdentity sender (ctcpReplyHost message) core.channelTypes then
          (core, true)
        else
          match core.ctcpReplyPayload request with
          | none => (core, true)
          | some payload =>
              match core.allowCtcpReply sender with
              | (refused, false) => (refused, true)
              | (allowed, true) =>
                  ((allowed.sendTrailingBody (utf8 ("NOTICE " ++ sender ++ " :")) (utf8 payload)
                    [] "").1, true)

/-- Send a CTCP query, optionally labeled. -/
def sendCtcp (core : Core) (target command argument requestLabel : String) : Core × Bool :=
  let verb := Platform.toUppercase (trim command)
  if !isValidPrivmsgTarget target || verb = "" || verb.toList.contains ' ' then (core, false)
  else
    core.sendTrailingBody (utf8 ("PRIVMSG " ++ target ++ " :"))
      (utf8 (ctcpPayload { command := verb, argument })) [] requestLabel

end Core

end Omairc.Session
