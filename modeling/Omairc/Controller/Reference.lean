import Omairc.Controller.System
import Omairc.Irc.Reducer.Reference

/-!
# A reference log

A computable transcript log in memory, for running the controller on fixed inputs.
-/

namespace Omairc.Controller

open Omairc.Irc Omairc.Irc.Reducer Omairc.Text

/-- Stored lines with the network and the folded target of their streams. -/
abbrev LoggedLines := List (String × String × TranscriptLine)

/-- A transcript log in memory. -/
@[reducible] def loggedLines : TranscriptLog LoggedLines where
  append lines networkId target mapping line :=
    lines ++ [(networkId, mapping.normalize target, line)]
  prepend lines networkId target mapping older :=
    older.map (fun line => (networkId, mapping.normalize target, line)) ++ lines
  readTail lines networkId target mapping count :=
    let stored := lines.filterMap fun (network, name, line) =>
      if network = networkId ∧ name = mapping.normalize target then some line else none
    stored.drop (stored.length - count)

/-- Labels that can be taken one after another are a run. -/
theorem runs_labels [Platform] [CharacterClasses] [TranscriptLog Log] {initial : Controller Log}
    {labels : List Label} {check : Controller Log → Bool}
    (passed : (Semantics.runAll step initial labels).any check = true) :
    ∃ final, Semantics.Runs step Semantics.unguarded initial final ∧ check final = true := by
  obtain ⟨final, taken, checked⟩ := Session.exists_of_any passed
  exact ⟨final, .of_runAll taken, checked⟩

end Omairc.Controller
