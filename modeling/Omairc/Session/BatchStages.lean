import Omairc.Session.Batch

/-!
# The stages of closing a batch

A close removes the batch with its children and finishes its label, and a replay root is
then delivered. The stages in between are named, so that what each one changes is stated
once.
-/

namespace Omairc.Session

open Omairc.Text Omairc.Irc

namespace Core

variable (core : Core)

/-- Whether a batch was opened at the current generation of its target. -/
def isCurrent (frame : OpenBatch) : Bool :=
  frame.generation = core.historyGeneration frame.collected.target

/-- Whether a delivered batch answers the pending request of its target. -/
def answersRequest (frame : OpenBatch) : Bool :=
  core.isCurrent frame && frame.kind = some .chat && frame.historyRequest.isSome

/-- The session once a delivered batch has answered its request. -/
def answeredBy (frame : OpenBatch) : Core :=
  let folded := core.foldChannel frame.collected.target
  if core.answersRequest frame then
    let cleared :=
      { core with
        history.pending := core.history.pending.erase folded
        history.pendingKind := core.history.pendingKind.erase folded }
    if frame.collected.lines.isEmpty && !decide (frame.historyRequest = some .after) &&
        !decide (frame.historyRequest = some .afterTail) then
      { cleared with history.exhausted := cleared.history.exhausted.insert folded }
    else cleared
  else core

/-- A chat batch as it is delivered, before the session marks it as an AFTER page. -/
def deliveredChat (frame : OpenBatch) : HistoryBatch :=
  { frame.collected with
    kind := frame.kind
    olderPage := frame.historyRequest = some .before }

variable [Platform]

/-- The session once a delivered chat batch has continued its AFTER chain. -/
def continuedBy (frame : OpenBatch) : Core :=
  let answered := core.answeredBy frame
  let noted :=
    { answered with
      history.pendingBefore :=
        answered.history.pendingBefore.erase (core.foldChannel frame.collected.target) }
  if core.isCurrent frame && decide (frame.historyRequest = some .after) then
    noted.maybeChainHistoryAfter frame.collected.target (deliveredChat frame) frame.historyEnded
  else noted

/-- What a delivered batch reports. -/
def reportedBatch (frame : OpenBatch) : HistoryBatch :=
  if frame.kind = some .chat then
    { deliveredChat frame with
      afterRequest := core.isCurrent frame && decide (frame.historyRequest = some .after)
      historyEnded := frame.historyEnded }
  else { frame.collected with kind := frame.kind }

theorem deliverBatch_eq (frame : OpenBatch) :
    core.deliverBatch frame =
      if frame.kind ≠ some .bouncerPlayback ∧ core.isCurrent frame = false then
        core.answeredBy frame
      else
        (if frame.kind = some .chat then core.continuedBy frame else core.answeredBy frame).emit
          (.historyBatchReceived core.networkId (core.reportedBatch frame)) := by
  unfold deliverBatch continuedBy reportedBatch answeredBy answersRequest isCurrent deliveredChat
  simp only
  by_cases current : frame.generation = core.historyGeneration frame.collected.target
  all_goals by_cases chat : frame.kind = some .chat
  all_goals simp [current, chat]

/-- The references of the batches that replay into a root. -/
def childrenOf (reference : String) : List String :=
  (core.batches.openBatches.toList.filter fun (_, batch) => batch.replayRoot = reference).map
    Prod.fst

/-- The session once an open batch is removed with its children. -/
def withoutTree (reference : String) : Core :=
  let removed := { core with batches.openBatches := core.batches.openBatches.erase reference }
  removed.orphanBatches (removed.childrenOf reference)

/-- The session once an open batch is removed and its label finished. -/
def removedBatch (reference : String) (frame : OpenBatch) : Core :=
  (core.withoutTree reference).finishBatchLabel frame.requestLabel

theorem closeBatch_eq (reference : String) :
    core.closeBatch reference =
      if core.batches.ignored.contains reference then
        { core with batches.ignored := core.batches.ignored.erase reference }
      else
        match core.batches.openBatches[reference]? with
        | none => core
        | some frame =>
            if frame.replayRoot = reference ∧ frame.kind = some .targets then
              { core.removedBatch reference frame with history.targetsPending := false }.emit
                (.historyBatchReceived core.networkId
                  { kind := some .targets
                    historyEnded := frame.historyEnded
                    targets := historyTargetsFrom frame.collected.lines })
            else if frame.replayRoot = reference ∧ frame.collected.target ≠ "" then
              (core.removedBatch reference frame).deliverBatch frame
            else core.removedBatch reference frame := by
  unfold closeBatch removedBatch withoutTree childrenOf
  by_cases ignored : core.batches.ignored.contains reference = true
  · rw [if_pos ignored, if_pos ignored]
  · rw [if_neg ignored, if_neg ignored]
    cases core.batches.openBatches[reference]? with
    | none => rfl
    | some frame => simp only [Bool.and_eq_true, decide_eq_true_eq]

end Core

end Omairc.Session
