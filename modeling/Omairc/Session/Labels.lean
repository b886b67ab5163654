import Omairc.Session.Send

/-!
# Labeled requests

Each outstanding label has a deadline. A reply, a failure, an acknowledgement, a
disconnect or the deadline finishes it, with one event.
-/

namespace Omairc.Session

open Omairc.Text Omairc.Irc

namespace Core

/-- Arm the label timer for the earliest deadline, or disarm it when none is left. -/
def armLabelTimer (core : Core) : Core :=
  match core.pendingLabels.values.min? with
  | none => core.cancelTimer .label
  | some earliest => core.armTimer .label (earliest - core.now).toNat

/-- Start a labeled request. -/
def beginLabeledRequest (core : Core) : Core × String :=
  let label := "lr" ++ toString (core.nextRequestLabel + 1)
  let deadline := core.now + (core.config.labeledResponseTimeoutMs : Int) * millisecond
  ({ core with
      nextRequestLabel := core.nextRequestLabel + 1
      pendingLabels := core.pendingLabels.insert label deadline }.armLabelTimer, label)

/-- Whether a label is outstanding. -/
def hasPendingRequestLabel (core : Core) (label : String) : Bool :=
  label ≠ "" && core.pendingLabels.contains label

/-- Drop a label without notifying. -/
def dropRequestLabel (core : Core) (label : String) : Core :=
  if !core.hasPendingRequestLabel label then core
  else { core with pendingLabels := core.pendingLabels.erase label }.armLabelTimer

/-- Finish a label, with one event. A label that is not outstanding is ignored. -/
def finishRequestLabel (core : Core) (label : String) : Core :=
  if !core.hasPendingRequestLabel label then core
  else
    { core with pendingLabels := core.pendingLabels.erase label }.armLabelTimer.emit
      (.requestLabelFinished core.networkId label)

/-- Report labels as finished, in order. -/
def emitLabelsFinished (core : Core) (labels : List String) : Core :=
  labels.foldl (fun core label => core.emit (.requestLabelFinished core.networkId label)) core

/-- Clear every outstanding label, with an event for each in label order. -/
def clearPendingRequestLabels (core : Core) : Core :=
  ({ core with pendingLabels := {} }.cancelTimer .label).emitLabelsFinished
    core.pendingLabels.keys

/-- Expire every label whose deadline has passed. -/
def onLabelTimerFired (core : Core) : Core :=
  let expired := (core.pendingLabels.toList.filter fun entry => entry.2 ≤ core.now).map Prod.fst
  let left := { core with pendingLabels := expired.foldl (·.erase ·) core.pendingLabels }
  (left.emitLabelsFinished expired).armLabelTimer

end Core

end Omairc.Session
