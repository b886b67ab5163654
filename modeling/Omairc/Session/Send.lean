import Omairc.Session.Core

/-!
# The line writers

Every line of the session is queued by `sendLine`, which reports it and writes it.
Commands are written only while registered, labeled when asked to be, and a body
may take several frames.
-/

namespace Omairc.Session

open Omairc.Text Omairc.Irc

/-- A label may carry only tag-safe characters, at most 64 of them. -/
def isTagSafeLabel (label : String) : Bool :=
  label ≠ "" && (utf8 label).length ≤ 64 &&
    (utf8 label).all fun byte => isAsciiAlphanumeric byte || byte == 45 || byte == 95

/-- A command under its request label, if it has one. -/
def labeledCommand (command : Bytes) (requestLabel : String) : Bytes :=
  if requestLabel = "" then command
  else utf8 "@label=" ++ utf8 requestLabel ++ [32] ++ command

namespace Core

variable (core : Core)

/-- Queue one built line: report it, then write it. -/
def sendLine (built : Bytes) : Core :=
  if built.isEmpty then core
  else
    (core.emit (.outbound core.networkId built core.channelTypes core.now)).queue (.write built)

/-- Send a command, optionally labeled, while registered. -/
def sendCommand (command : Bytes) (requestLabel : String) : Core × Bool :=
  if core.state ≠ .registered then (core, false)
  else if requestLabel ≠ "" && !isTagSafeLabel requestLabel then (core, false)
  else
    match line (labeledCommand command requestLabel) core.features with
    | .error _ => (core, false)
    | .ok built => (core.sendLine built, true)

/-- Send the chunks of a body in order, until one is refused. -/
def sendChunks (core : Core) (lead suffix : Bytes) (requestLabel : String) :
    List Bytes → Core × Bool
  | [] => (core, true)
  | chunk :: rest =>
      match core.sendCommand (lead ++ chunk ++ suffix) requestLabel with
      | (sent, true) => sent.sendChunks lead suffix requestLabel rest
      | (refused, false) => (refused, false)

/-- Send a body that may need several frames. A labeled request must fit one. -/
def sendTrailingBody (lead body suffix : Bytes) (requestLabel : String) : Core × Bool :=
  let chunks := splitTrailingParam lead body suffix core.features
  if chunks.isEmpty then (core, false)
  else if requestLabel ≠ "" && chunks.length ≠ 1 then (core, false)
  else core.sendChunks lead suffix requestLabel chunks

end Core

end Omairc.Session
