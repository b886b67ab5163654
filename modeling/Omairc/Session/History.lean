import Omairc.Session.Labels

/-!
# History requests and replay batches

The CHATHISTORY requests with their ledger, and the batches that answer them. A
membership change bumps a channel's generation, which makes the answers in flight
stale. Lines of a collected batch are swallowed and delivered as one event.
-/

namespace Omairc.Session

open Omairc.Text Omairc.Irc

variable [Platform]

/-- The text of a CHATHISTORY timestamp. -/
def formatChatHistoryTimestamp (time : Instant) : String :=
  Platform.formatUtc millisecondTimeFormat time

/-- The selector of a cursor, if it has one. -/
def historySelector (cursor : HistoryCursor) : Option String :=
  if cursor.msgid ≠ "" then some ("msgid=" ++ cursor.msgid)
  else cursor.time.map fun time => "timestamp=" ++ formatChatHistoryTimestamp time

/-- The cursor of the next AFTER page: a message id of the page, or else a server time. -/
def cursorFromAfterPage (lines : List IrcMessage) : HistoryCursor :=
  match lines.getLast? with
  | none => {}
  | some last =>
      let lastMsgid := (((lines.map IrcMessage.msgid).filter (· ≠ "")).getLast?).getD ""
      if last.msgid ≠ "" then { msgid := last.msgid }
      else if lastMsgid ≠ "" then { msgid := lastMsgid }
      else
        match serverTimeOf last with
        | some time => { time := some time }
        | none =>
            match lines.reverse.findSome? serverTimeOf with
            | some time => { time := some time }
            | none => {}

/-- The rows of a CHATHISTORY TARGETS batch. -/
def historyTargetsFrom (lines : List IrcMessage) : List HistoryTarget :=
  ((lines.filter fun line => eqIgnoreAsciiCase line.command "CHATHISTORY").filter fun line =>
    eqIgnoreAsciiCase (line.textParam 0) "TARGETS").filterMap fun line =>
      if line.textParam 1 = "" then none
      else some ⟨line.textParam 1, parseHistoryTargetTime (line.textParam 2)⟩

namespace Core

/-- Whether a replay kind may be collected. -/
def replayEnabled (core : Core) (kind : HistoryKind) : Bool :=
  decide (.batch ∈ core.caps.enabled) &&
    (kind = .bouncerPlayback || decide (.chatHistory ∈ core.caps.enabled))

/-- The membership generation of a channel. -/
def historyGeneration (core : Core) (channel : String) : Nat :=
  (core.history.generation[core.foldChannel channel]?).getD 0

/-- Clear the pending state of one channel's request. -/
def clearHistoryPending (core : Core) (channel : String) : Core :=
  let folded := core.foldChannel channel
  { core with
    history.pending := core.history.pending.erase folded
    history.pendingBefore := core.history.pendingBefore.erase folded
    history.pendingKind := core.history.pendingKind.erase folded }

/-- Record a membership change of a channel. -/
def bumpHistoryGeneration (core : Core) (channel : String) : Core :=
  { core with
    history.generation := core.history.generation.insert (core.foldChannel channel)
      (core.historyGeneration channel + 1) }.clearHistoryPending channel

/-- Whether a channel has a request outstanding at its current generation. -/
def historyInflight (core : Core) (target : String) : Bool :=
  target ≠ "" && core.history.pending[core.foldChannel target]? = some (core.historyGeneration target)

/-- Whether a CHATHISTORY batch of a channel is open at the current generation. -/
def hasOpenCurrentHistoryBatch (core : Core) (channel : String) : Bool :=
  core.batches.openBatches.toList.any fun (reference, batch) =>
    batch.replayRoot = reference && batch.kind = some .chat &&
      core.foldChannel batch.collected.target = core.foldChannel channel &&
      batch.generation = core.historyGeneration channel

/-- Whether a channel has a request whose answer is not yet arriving as a batch. -/
def answersPendingHistory (core : Core) (channel : String) : Bool :=
  core.historyInflight channel && !core.hasOpenCurrentHistoryBatch channel

/-- Remember a reference whose lines must be swallowed. -/
def ignoreBatch (core : Core) (reference : String) : Core :=
  if reference = "" then core
  else
    let closed :=
      { core with batches.openBatches := core.batches.openBatches.erase reference }
    if core.batches.ignored.contains reference then closed
    else if core.batches.ignored.size ≥ maxIgnoredBatches then closed
    else { closed with batches.ignored := core.batches.ignored.insert reference }

/-- Drop the batches of a channel, with their children. -/
def dropHistoryBatches (core : Core) (channel : String) : Core :=
  let folded := core.foldChannel channel
  let roots := (core.batches.openBatches.toList.filter fun (reference, batch) =>
    batch.replayRoot = reference && core.foldChannel batch.collected.target = folded).map Prod.fst
  if roots.isEmpty then core
  else
    let gone := (core.batches.openBatches.toList.filter fun (reference, batch) =>
      roots.contains reference || roots.contains batch.replayRoot).map Prod.fst
    gone.foldl ignoreBatch
      { core with batches.openBatches := gone.foldl (·.erase ·) core.batches.openBatches }

/-- Forget a channel's history after it was left. -/
def forgetChannelHistory (core : Core) (channel : String) : Core :=
  let folded := core.foldChannel channel
  { core.clearHistoryPending channel with
    history.asked := core.history.asked.erase folded
    history.exhausted := core.history.exhausted.erase folded
    history.afterPages := core.history.afterPages.erase folded
    history.afterCursor := core.history.afterCursor.erase folded }.dropHistoryBatches channel

/-- Abandon every history request after the capability was withdrawn. -/
def abandonHistoryRequests (core : Core) : Core :=
  let targets : StringSet := Std.TreeSet.ofList
    ((core.batches.openBatches.toList.filter fun (reference, batch) =>
      batch.replayRoot = reference && batch.collected.target ≠ "").map
        fun (_, batch) => batch.collected.target)
  let dropped := targets.toList.foldl dropHistoryBatches core
  { dropped with
    history.pending := {}
    history.pendingBefore := {}
    history.pendingKind := {}
    history.targetsPending := false
    history.afterPages := {}
    history.afterCursor := {} }

/-- Fail the first parameter that names a pending request. -/
def failHistoryRequest (core : Core) : List String → Core
  | [] => core
  | channel :: rest =>
      if !core.answersPendingHistory channel then core.failHistoryRequest rest
      else
        let folded := core.foldChannel channel
        let before := core.history.pendingBefore.contains folded
        let kind := (core.history.pendingKind[folded]?).getD .latest
        let cleared := core.clearHistoryPending channel
        let noted := if kind ≠ .after ∧ kind ≠ .afterTail then
            { cleared with history.exhausted := cleared.history.exhausted.insert folded }
          else cleared
        let finished := noted.emit
          (.chatHistoryRequestFinished core.networkId channel true before)
        if kind = .after then finished.emit (.chatHistoryFailed core.networkId "AFTER" channel)
        else finished

/-- Handle a `FAIL CHATHISTORY` line. -/
def handleChatHistoryFail (core : Core) (message : IrcMessage) : Core :=
  if !eqIgnoreAsciiCase (message.textParam 0) "CHATHISTORY" then core
  else if message.params.length < 4 then core
  else if eqIgnoreAsciiCase (message.textParam 2) "TARGETS" then
    { core with history.targetsPending := false }.emit
      (.chatHistoryFailed core.networkId "TARGETS" "")
  else
    -- The description is the last parameter, and is skipped.
    core.failHistoryRequest ((List.range' 2 (message.params.length - 1 - 2)).map message.textParam)

/-- Record a request as pending, as a subcommand and at the current generation. -/
def notePending (core : Core) (target : String) (kind : HistoryRequestKind) : Core :=
  let key := core.foldChannel target
  { core with
    history.pending := core.history.pending.insert key (core.historyGeneration target)
    history.pendingKind := core.history.pendingKind.insert key kind }

/-- Forget an AFTER chain whose request was not sent. -/
def clearHistoryAfterAttempt (core : Core) (key : String) : Core :=
  { core with
    history.pending := core.history.pending.erase key
    history.pendingKind := core.history.pendingKind.erase key
    history.asked := core.history.asked.erase key
    history.afterPages := core.history.afterPages.erase key
    history.afterCursor := core.history.afterCursor.erase key }

/-- Send one bounded page request of an AFTER chain. -/
def sendHistoryPage (core : Core) (subcommand : String) (kind : HistoryRequestKind)
    (target : String) (cursor : HistoryCursor) : Core × Bool :=
  match historySelector cursor with
  | none => (core, false)
  | some selector =>
      let command := "CHATHISTORY " ++ subcommand ++ " " ++ target ++ " " ++ selector ++ " " ++
        toString core.historyLimit
      match (core.notePending target kind).sendCommand (utf8 command) "" with
      | (sent, true) => (sent, true)
      | (refused, false) => (refused.clearHistoryAfterAttempt (core.foldChannel target), false)

/-- Send one CHATHISTORY AFTER page from a cursor. -/
def sendHistoryAfter (core : Core) : String → HistoryCursor → Core × Bool :=
  core.sendHistoryPage "AFTER" .after

/-- Send the closing CHATHISTORY LATEST bound of an AFTER chain. -/
def sendHistoryLatestBound (core : Core) : String → HistoryCursor → Core × Bool :=
  core.sendHistoryPage "LATEST" .afterTail

/-- Chain the next AFTER page when a full page arrived. -/
def maybeChainHistoryAfter (core : Core) (target : String) (batch : HistoryBatch)
    (historyEnded : Bool) : Core :=
  if target = "" || historyEnded || batch.lines.length < core.historyLimit then core
  else
    let next := cursorFromAfterPage batch.lines
    if next.msgid = "" ∧ next.time = none then core
    else
      let key := core.foldChannel target
      let pages := max ((core.history.afterPages[key]?).getD 1) 1
      let cap := if core.history.afterPageCap = 0 then historyAfterPageCap
        else core.history.afterPageCap
      if pages ≥ cap then (core.sendHistoryLatestBound target next).1
      else
        let previous := (core.history.afterCursor[key]?).getD {}
        -- A time bound that does not move would ask for the same page again.
        let stalled := match previous.time, next.time with
          | some previousTime, some nextTime => next.msgid = "" && nextTime ≤ previousTime
          | _, _ => false
        if stalled then core
        else
          ({ core with
            history.afterPages := core.history.afterPages.insert key (pages + 1)
            history.afterCursor := core.history.afterCursor.insert key next }.sendHistoryAfter
              target next).1

/-- Send `CHATHISTORY LATEST` once for each channel and generation. -/
def requestHistoryLatest (core : Core) (target : String) : Core × Bool :=
  if target = "" || !core.replayEnabled .chat then (core, false)
  else
    let key := core.foldChannel target
    if core.history.asked.contains key || core.historyInflight target then (core, false)
    else
      let command := "CHATHISTORY LATEST " ++ target ++ " * " ++ toString core.historyLimit
      let noted := { core with history.asked := core.history.asked.insert key }.notePending
        target .latest
      match noted.sendCommand (utf8 command) "" with
      | (sent, true) => (sent, true)
      | (refused, false) =>
          ({ refused with
            history.asked := refused.history.asked.erase key
            history.pending := refused.history.pending.erase key
            history.pendingKind := refused.history.pendingKind.erase key }, false)

/-- Start an AFTER chain. -/
def requestHistoryAfter (core : Core) (target : String) (after : Instant) : Core × Bool :=
  if target = "" || !core.replayEnabled .chat then (core, false)
  else if core.historyInflight target then (core, false)
  else
    let key := core.foldChannel target
    let cursor : HistoryCursor := { time := some after }
    { core with
      history.asked := core.history.asked.insert key
      history.afterPages := core.history.afterPages.insert key 1
      history.afterCursor := core.history.afterCursor.insert key cursor }.sendHistoryAfter
        target cursor

/-- Ask for the history a self-JOIN should show. -/
def requestChannelHistory (core : Core) (channel : String) : Core :=
  if channel = "" || !core.replayEnabled .chat then core
  else if core.history.asked.contains (core.foldChannel channel) then core
  else
    match core.historyResume.bind fun resume => resume channel core.features.caseMapping with
    | some time =>
        match core.requestHistoryAfter channel time with
        | (sent, true) => sent
        | (refused, false) => (refused.requestHistoryLatest channel).1
    | none => (core.requestHistoryLatest channel).1

/-- Ask which targets have messages between two instants. -/
def requestHistoryTargets (core : Core) (start stop : Instant) : Core × Bool :=
  if !core.replayEnabled .chat || core.history.targetsPending then (core, false)
  else if stop ≤ start then (core, false)
  else
    let command := "CHATHISTORY TARGETS timestamp=" ++ formatChatHistoryTimestamp start ++
      " timestamp=" ++ formatChatHistoryTimestamp stop ++ " " ++ toString core.historyLimit
    match core.sendCommand (utf8 command) "" with
    | (sent, true) => ({ sent with history.targetsPending := true }, true)
    | (refused, false) => (refused, false)

/-- Ask for one page older than a message id, or else than a time. -/
def requestOlderHistory (core : Core) (target msgid : String) (timestamp : Option Instant) :
    Core × Bool :=
  if target = "" || !core.replayEnabled .chat then (core, false)
  else
    let key := core.foldChannel target
    if core.history.exhausted.contains key || core.historyInflight target then (core, false)
    else if core.features.isChannel target && !core.history.asked.contains key then (core, false)
    else
      match historySelector { msgid, time := timestamp } with
      | none => (core, false)
      | some cursor =>
          let command := "CHATHISTORY BEFORE " ++ target ++ " " ++ cursor ++ " " ++
            toString core.historyLimit
          let noted := core.notePending target .before
          match { noted with
              history.pendingBefore := noted.history.pendingBefore.insert key }.sendCommand
                (utf8 command) "" with
          | (sent, true) => (sent, true)
          | (refused, false) => (refused.clearHistoryPending target, false)

end Core

end Omairc.Session
