import Omairc.Irc.Reducer.System
import Omairc.Session.Reference

/-!
# A reference storage

A computable log and closed list in memory, and the ASCII character classes, for running
the reducer on fixed inputs.
-/

namespace Omairc.Irc.Reducer

open Omairc.Text

/-- Stored lines with their network and target, and the closed targets of each network. -/
structure Memory where
  lines : List (String × String × TranscriptLine) := []
  closed : List (String × String) := []

/-- A log and a closed list in memory. -/
@[reducible] def memory : Storage Memory where
  append disk networkId target _ line :=
    { disk with lines := disk.lines ++ [(networkId, target, line)] }
  prepend disk networkId target _ lines :=
    { disk with lines := lines.map (fun line => (networkId, target, line)) ++ disk.lines }
  readTail disk networkId target _ count :=
    let stored := disk.lines.filterMap fun (network, name, line) =>
      if network = networkId ∧ name = target then some line else none
    stored.drop (stored.length - count)
  contains disk networkId target mapping :=
    disk.closed.contains (networkId, mapping.normalize target)
  add disk networkId target mapping :=
    { disk with closed := disk.closed.insert (networkId, mapping.normalize target) }
  remove disk networkId target mapping :=
    { disk with closed := disk.closed.erase (networkId, mapping.normalize target) }

/-- The ASCII character classes. -/
@[reducible] def asciiClasses : CharacterClasses where
  isAlphabetic := Char.isAlpha
  isNumeric := Char.isDigit

/-- The calls of a run, one after another. -/
def EventReducer.performAll [Platform] [CharacterClasses] {Disk : Type} [Storage Disk]
    (reducer : EventReducer Disk) (calls : List (Call Disk)) : EventReducer Disk :=
  calls.foldl EventReducer.perform reducer

/-- Calls one after another are a run. -/
theorem EventReducer.runs_performAll [Platform] [CharacterClasses] {Disk : Type} [Storage Disk]
    (reducer : EventReducer Disk) (calls : List (Call Disk)) :
    Semantics.Runs EventReducer.step Semantics.unguarded reducer (reducer.performAll calls) := by
  induction calls generalizing reducer with
  | nil => exact .refl
  | cons call rest inductionHypothesis =>
      exact (Semantics.Runs.refl.step trivial rfl).trans (inductionHypothesis _)

/-- One more call of a guarded run. -/
theorem EventReducer.runs_perform [Platform] [CharacterClasses] {Disk : Type} [Storage Disk]
    {guard : EventReducer Disk → Call Disk → Prop} {initial reducer : EventReducer Disk}
    (runs : Semantics.Runs EventReducer.step guard initial reducer) (call : Call Disk)
    (allowed : guard reducer call) :
    Semantics.Runs EventReducer.step guard initial (reducer.perform call) :=
  runs.step allowed rfl

/-- An event at the zero reading of the clock. -/
def eventAt (event : Event) : Call Memory := .apply event 0

/-- A chat line of a peer. -/
def chatLine (networkId target author body : String) (msgid : MsgId) : ChatEvent :=
  { conversation := { networkId, normalizedTarget := target }, author, body, timestamp := 0
    target, msgid }

end Omairc.Irc.Reducer
