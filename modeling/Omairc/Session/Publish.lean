import Omairc.Session.Send

/-!
# Typing, metadata and private messages

The paced typing notifications, the metadata subscription and its writer, and the
PRIVMSG writer that the welcome and the public senders share.
-/

namespace Omairc.Session

open Omairc.Text Omairc.Irc

/-- Whether a typing phase may go out for a target now. -/
def shouldSendTyping (targets : StringMap TargetClock) (target : String) (phase : TypingPhase)
    (now : Instant) : Bool :=
  if phase = .paused then false
  else
    match targets[target]? with
    | none => phase = .active
    | some clock =>
        if phase = .done && clock.suppressDone then false
        else if phase = .done && clock.lastPhase ≠ .active then false
        else !clock.lastSentAt.any fun last => now - last < typingSendIntervalMs * millisecond

namespace Core

variable (core : Core)

/-- Record that a typing phase went out for a target. -/
def recordTypingSent (target : String) (phase : TypingPhase) : Core :=
  let clock := (core.typing[target]?).getD {}
  { core with
    typing := core.typing.insert target
      { lastSentAt := some core.now
        lastPhase := phase
        suppressDone := if phase ≠ .done then false else clock.suppressDone } }

/-- A message went to a target, so a trailing `done` is suppressed. -/
def noteMessageSent (target : String) : Core :=
  let clock := (core.typing[target]?).getD {}
  { core with typing := core.typing.insert target { clock with suppressDone := true } }

/-- Send a typing phase. The notification bypasses the outbound event. -/
def sendTyping (target : String) (phase : TypingPhase) : Core × Bool :=
  if core.state ≠ .registered then (core, false)
  else if .messageTags ∉ core.caps.enabled then (core, false)
  else if !shouldSendTyping core.typing target phase core.now then (core, false)
  else
    match typingTagmsg target phase with
    | none => (core, false)
    | some built => ((core.queue (.write built)).recordTypingSent target phase, true)

/-- Whether member metadata and the batches it needs are both enabled. -/
def metadataEnabled : Bool :=
  decide (.memberMetadata ∈ core.caps.enabled) && decide (.batch ∈ core.caps.enabled)

/-- Subscribe to the metadata keys the server allows. -/
def subscribeToMemberMetadata : Core :=
  if !core.metadataEnabled then core
  else
    let keys := subscriptionKeys core.metadata.maxSubs
    if keys.isEmpty then core
    else core.sendLine (utf8 ("METADATA * SUB " ++ joinTexts " " keys) ++ crlf)

/-- Set, or for an empty value clear, one of this user's metadata keys. The result is
the value placed on the wire. -/
def setOwnMetadata (key value : String) : Core × Option String :=
  if core.state ≠ .registered then (core, none)
  else if !core.metadataEnabled then (core, none)
  else
    match canonicalKey key with
    | none => (core, none)
    | some stored =>
        if value = "" then
          match core.sendCommand (utf8 ("METADATA * SET " ++ stored)) "" with
          | (sent, true) => (sent, some "")
          | (refused, false) => (refused, none)
        else
          let lead := "METADATA * SET " ++ stored ++ " :"
          let wireBudget := maxClassicFrameBytes - byteLength lead - 2
          let maxBytes := min (effectiveMaxValueBytes core.metadata.maxValueBytes) wireBudget
          let clamped := clampedTo value maxBytes
          if maxBytes = 0 || clamped = "" then (core, none)
          else
            match core.sendCommand (utf8 (lead ++ clamped)) "" with
            | (sent, true) => (sent, some clamped)
            | (refused, false) => (refused, none)

/-- Handle the numeric that asks for a metadata sync later. The delay is at most a
minute. -/
def handleMetadataSyncLater (message : IrcMessage) : Core :=
  let target := message.textParam 1
  if target = "" then core
  else
    let retryAfter := min (max ((parseInt64 (trim (message.textParam 2))).getD 0) 0) 60
    { core with
      metadataRetries := core.metadataRetries ++ [⟨target, retryAfter.toNat * 1000000000⟩] }

/-- A metadata sync that was asked to be retried is due. -/
def retryMetadataSync (target : String) : Core :=
  (core.sendCommand (utf8 ("METADATA " ++ target ++ " SYNC")) "").1

/-- Send a PRIVMSG, and note it for the typing pace. -/
def sendPrivmsgLocked (target body : String) : Core × Bool :=
  if !isValidPrivmsgTarget target || body = "" then (core, false)
  else
    match core.sendTrailingBody (utf8 ("PRIVMSG " ++ target ++ " :")) (utf8 body) [] "" with
    | (sent, true) => (sent.noteMessageSent target, true)
    | (refused, false) => (refused, false)

/-- Ask who is in a channel, to learn who is away. -/
def probeChannelAway (channel : String) : Core :=
  if channel = "" || .awayNotify ∉ core.caps.enabled then core
  else (core.sendCommand (utf8 ("WHO " ++ channel)) "").1

end Core

end Omairc.Session
