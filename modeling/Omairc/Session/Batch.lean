import Omairc.Session.History

/-!
# Batches

A `BATCH` line opens or closes a reference, and the lines in between name it. The
ledger decides which batches are collected, which are ignored, and which share one
open-batch budget.
-/

namespace Omairc.Session

open Omairc.Text Omairc.Irc

variable [Platform]

/-- The sign and the reference of a BATCH token. -/
def batchReference (token : String) : Option (Char × String) :=
  if byteLength token < 2 then none
  else
    match token.toList with
    | [] => none
    | sign :: reference =>
        if (sign = '+' ∨ sign = '-') ∧ reference ≠ [] then some (sign, String.ofList reference)
        else none

namespace Core

/-- Whether a batch is a replay batch or sits inside one. -/
def isHistoryBatch (core : Core) (batchType parent : String) : Bool :=
  (replayKindFor batchType).isSome ||
    (parent ≠ "" && (core.batches.ignored.contains parent ||
      (core.batches.openBatches[parent]?).any fun batch => batch.replayRoot ≠ ""))

/-- Deliver what a closed batch collected. -/
def deliverBatch (core : Core) (frame : OpenBatch) : Core :=
  let target := frame.collected.target
  let current := frame.generation = core.historyGeneration target
  let folded := core.foldChannel target
  let after := frame.historyRequest = some .after
  let afterTail := frame.historyRequest = some .afterTail
  let answered :=
    if current && frame.kind = some .chat && frame.historyRequest.isSome then
      let cleared :=
        { core with
          history.pending := core.history.pending.erase folded
          history.pendingKind := core.history.pendingKind.erase folded }
      -- An empty AFTER, and the LATEST that closes its chain, are not the end of history.
      if frame.collected.lines.isEmpty && !after && !afterTail then
        { cleared with history.exhausted := cleared.history.exhausted.insert folded }
      else cleared
    else core
  if frame.kind ≠ some .bouncerPlayback && !current then answered
  else if frame.kind = some .chat then
    let batch :=
      { frame.collected with
        kind := frame.kind
        olderPage := frame.historyRequest = some .before }
    let noted :=
      { answered with history.pendingBefore := answered.history.pendingBefore.erase folded }
    let chained := if current && after then
        noted.maybeChainHistoryAfter target batch frame.historyEnded
      else noted
    chained.emit (.historyBatchReceived core.networkId
      { batch with afterRequest := current && after, historyEnded := frame.historyEnded })
  else
    answered.emit (.historyBatchReceived core.networkId { frame.collected with kind := frame.kind })

/-- Close the children of a batch; their lines are swallowed from here on. -/
def orphanBatches (core : Core) (children : List String) : Core :=
  children.foldl (fun core child =>
    { core with batches.openBatches := core.batches.openBatches.erase child }.ignoreBatch child) core

/-- Finish the labeled request that a batch answers, if any. -/
def finishBatchLabel (core : Core) (requestLabel : String) : Core :=
  if requestLabel = "" then core else core.finishRequestLabel requestLabel

/-- Close one batch and deliver what it collected. -/
def closeBatch (core : Core) (reference : String) : Core :=
  if core.batches.ignored.contains reference then
    { core with batches.ignored := core.batches.ignored.erase reference }
  else
    match core.batches.openBatches[reference]? with
    | none => core
    | some frame =>
        let removed :=
          { core with batches.openBatches := core.batches.openBatches.erase reference }
        let children := (removed.batches.openBatches.toList.filter fun (_, batch) =>
          batch.replayRoot = reference).map Prod.fst
        let finished := (removed.orphanBatches children).finishBatchLabel frame.requestLabel
        let isRoot := frame.replayRoot = reference
        if isRoot && frame.kind = some .targets then
          { finished with history.targetsPending := false }.emit
            (.historyBatchReceived core.networkId
              { kind := some .targets
                historyEnded := frame.historyEnded
                targets := historyTargetsFrom frame.collected.lines })
        else if isRoot && frame.collected.target ≠ "" then finished.deliverBatch frame
        else finished

/-- The frame that a BATCH line opens. -/
def openedFrame (core : Core) (message : IrcMessage) (reference : String) : OpenBatch :=
  let parent := (message.tagText "batch").getD ""
  let batchType := message.textParam 1
  let targetArg := message.textParam 2
  let kind := replayKindFor batchType
  let parentRoot := ((core.batches.openBatches[parent]?).map OpenBatch.replayRoot).getD ""
  let root := if parentRoot ≠ "" then parentRoot else if kind.isSome then reference else ""
  let labeled : OpenBatch :=
    if eqIgnoreAsciiCase batchType "labeled-response" then
      { requestLabel := (message.tagText "label").getD "" }
    else {}
  if root = reference then
    { labeled with
      replayRoot := root
      kind
      historyEnded := message.hasTag "draft/chathistory-end"
      collected := { target := targetArg }
      generation := core.historyGeneration targetArg
      historyRequest :=
        if kind = some .chat && core.answersPendingHistory targetArg then
          core.history.pendingKind[core.foldChannel targetArg]?
        else none }
  else { labeled with replayRoot := root }

/-- Open the batch a BATCH line names, unless it is ignored or over the budget. -/
def openBatch (core : Core) (message : IrcMessage) (reference : String) : Core :=
  let parent := (message.tagText "batch").getD ""
  let batchType := message.textParam 1
  let carriedLabel := (message.tagText "label").getD ""
  let targetArg := message.textParam 2
  let kind := replayKindFor batchType
  if core.batches.openBatches.contains reference then core
  else if kind.any fun kind => !core.replayEnabled kind then core.ignoreBatch reference
  else
    let solicited := (kind = some .targets && core.history.targetsPending) ||
      (kind = some .chat && core.answersPendingHistory targetArg)
    let pendingLabeledResponse := eqIgnoreAsciiCase batchType "labeled-response" &&
      core.hasPendingRequestLabel carriedLabel
    let overOpenCap := !solicited && !pendingLabeledResponse &&
      core.batches.openBatches.size ≥ maxOpenBatches
    let ignored := core.batches.ignored.contains reference
    let parentIgnored := parent ≠ "" && core.batches.ignored.contains parent
    if ignored || parentIgnored || (overOpenCap && core.isHistoryBatch batchType parent) then
      let ignoring := core.ignoreBatch reference
      match kind with
      | some .chat => ignoring.clearHistoryPending targetArg
      | some .targets => { ignoring with history.targetsPending := false }
      | _ => ignoring
    else if overOpenCap then core
    else
      { core with
        batches.openBatches := core.batches.openBatches.insert reference
          (core.openedFrame message reference) }

/-- Open or close a batch. -/
def handleBatch (core : Core) (message : IrcMessage) : Core :=
  match batchReference (message.textParam 0) with
  | none => core
  | some ('-', reference) => core.closeBatch reference
  | some (_, reference) => core.openBatch message reference

/-- Collect a tagged line into its replay root; true when the line was swallowed. -/
def captureInBatch (core : Core) (message : IrcMessage) : Core × Bool :=
  let batch := (message.tagText "batch").getD ""
  if batch = "" then (core, false)
  else if core.batches.ignored.contains batch then (core, true)
  else
    match core.batches.openBatches[batch]? with
    | none => (core, false)
    | some found =>
        if found.replayRoot = "" then (core, false)
        else
          match core.batches.openBatches[found.replayRoot]? with
          | none => (core, false)
          | some root =>
              -- A full buffer keeps the newest lines.
              let kept := if root.collected.lines.length ≥ historyBufferCeiling then
                  root.collected.lines.tail
                else root.collected.lines
              ({ core with
                batches.openBatches := core.batches.openBatches.insert found.replayRoot
                  { root with collected.lines := kept ++ [message] } }, true)

/-- The label that correlates an inbound line with a request. -/
def correlationLabel (core : Core) (message : IrcMessage) : String :=
  let label := (message.tagText "label").getD ""
  if label ≠ "" then label
  else
    let batch := (message.tagText "batch").getD ""
    if batch = "" then ""
    else ((core.batches.openBatches[batch]?).map OpenBatch.requestLabel).getD ""

end Core

end Omairc.Session
