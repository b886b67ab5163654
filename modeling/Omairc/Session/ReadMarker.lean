import Omairc.Session.Send

/-!
# Read markers

One marker for each target is in flight at a time. A newer one waits behind it, and
the echo of the one in flight releases the next.
-/

namespace Omairc.Session

open Omairc.Text Omairc.Irc

variable [Platform]

namespace Core

/-- The read-marker verb of the acknowledged token, or empty. -/
def readMarkerCommand (core : Core) : String := Irc.readMarkerCommand core.readMarkerToken

/-- Fold a target the way the session folds channels and nicks. -/
def foldReadMarkerTarget (core : Core) (target : String) : String :=
  if target = "" then ""
  else if core.features.isChannel target then core.foldChannel target
  else core.features.caseMapping.normalize target

/-- Send the queued marker of a target unless one is in flight. -/
def flushReadMarkerSet (core : Core) (folded : String) : Core :=
  if core.readMarkers.inFlight.contains folded then core
  else
    match core.readMarkers.pending[folded]? with
    | none => core
    | some pending =>
        let spent :=
          { core with readMarkers.pending := core.readMarkers.pending.erase folded }
        let stale := (core.readMarkers.lastKnown[folded]?).any fun known =>
          !readMarkerTimeAfter pending.timestamp known
        if stale || core.readMarkerCommand = "" then spent
        else
          let command := core.readMarkerCommand ++ " " ++ pending.target ++ " timestamp=" ++
            formatReadMarkerTime pending.timestamp
          match spent.sendCommand (utf8 command) "" with
          | (refused, false) => refused
          | (sent, true) =>
              { sent with
                readMarkers.inFlight := sent.readMarkers.inFlight.insert folded pending.timestamp }

/-- Move the high-water mark of a target forward. -/
def advanceLastKnown (core : Core) (folded : String) (time : Instant) : Core :=
  if (core.readMarkers.lastKnown[folded]?).any fun known => !readMarkerTimeAfter time known then
    core
  else { core with readMarkers.lastKnown := core.readMarkers.lastKnown.insert folded time }

/-- Forget the marker in flight of a target, and release the next. -/
def releaseReadMarker (core : Core) (folded : String) : Core :=
  { core with
    readMarkers.inFlight := core.readMarkers.inFlight.erase folded }.flushReadMarkerSet folded

/-- Apply the echo of a marker. -/
def applyReadMarkerEcho (core : Core) (target folded : String) (echoed : Instant) : Core :=
  let advanced := (core.advanceLastKnown folded echoed).emit
    (.readMarkerReceived core.networkId target (some echoed))
  match advanced.readMarkers.inFlight[folded]? with
  | none => advanced
  | some inFlight =>
      if readMarkerTimeAfter inFlight echoed then advanced
      else
        let stale := (advanced.readMarkers.pending[folded]?).any fun pending =>
          !readMarkerTimeAfter pending.timestamp echoed
        let dropped := if stale then
            { advanced with
              readMarkers.pending := advanced.readMarkers.pending.erase folded }
          else advanced
        dropped.releaseReadMarker folded

/-- Handle an inbound read-marker line; true when the line was one. -/
def deliverReadMarker (core : Core) (message : IrcMessage) : Core × Bool :=
  if message.command ≠ "MARKREAD" ∧ message.command ≠ "READ" then (core, false)
  else
    let target := message.textParam 0
    if target = "" then (core, true)
    else
      let folded := core.foldReadMarkerTarget target
      let unmarked : SessionEvent := .readMarkerReceived core.networkId target none
      if message.params.length < 2 then (core.emit unmarked, true)
      else
        match parseReadMarkerParameter (message.textParam 1) with
        | none => ((core.releaseReadMarker folded).emit unmarked, true)
        | some none => (core.emit unmarked, true)
        | some (some marker) =>
            (core.applyReadMarkerEcho target folded (readMarkerTimeMillis marker), true)

/-- Handle a `FAIL` that names a read-marker command. -/
def handleReadMarkerFail (core : Core) (message : IrcMessage) : Core :=
  let command := message.textParam 0
  if !eqIgnoreAsciiCase command "MARKREAD" && !eqIgnoreAsciiCase command "READ" then core
  else if message.params.length < 4 then
    (core.readMarkers.inFlight.keys.foldl releaseReadMarker core).emit
      (.readMarkerReceived core.networkId "" none)
  else
    let target := message.textParam 2
    let folded := core.foldReadMarkerTarget target
    if folded = "" then core
    else (core.releaseReadMarker folded).emit (.readMarkerReceived core.networkId target none)

/-- Ask the server for the stored marker of a target. -/
def requestReadMarkerGet (core : Core) (target : String) : Core × Bool :=
  if target = "" || core.readMarkerCommand = "" then (core, false)
  else core.sendCommand (utf8 (core.readMarkerCommand ++ " " ++ target)) ""

/-- Record a newer marker to publish once the target is caught up. -/
def queueReadMarkerSet (core : Core) (target : String) (time : Instant) : Core :=
  let folded := core.foldReadMarkerTarget target
  let time := readMarkerTimeMillis time
  let notNewer (known : Instant) : Bool := !readMarkerTimeAfter time known
  if target = "" || core.readMarkerCommand = "" || folded = "" then core
  else if (core.readMarkers.lastKnown[folded]?).any notNewer then core
  else if (core.readMarkers.inFlight[folded]?).any notNewer then core
  else if (core.readMarkers.pending[folded]?).any fun pending => notNewer pending.timestamp then
    core
  else
    { core with
      readMarkers.pending := core.readMarkers.pending.insert folded
        ⟨target, time⟩ }.flushReadMarkerSet folded

end Core

end Omairc.Session
