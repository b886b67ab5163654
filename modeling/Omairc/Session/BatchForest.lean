import Omairc.Session.Batch

/-!
# Forests of batches

The open batches form trees, each named by its root, and no reference is open and ignored at
once. What an operation may do to them is stated on the ledger alone: it sweeps references,
it loses whole trees, and descendants follow their roots.
-/

namespace Omairc.Session

open Omairc.Text Omairc.Irc

/-- A buffer with one more line, of which a full buffer loses the oldest. -/
def bufferLine (lines : List IrcMessage) (message : IrcMessage) : List IrcMessage :=
  (if lines.length ≥ historyBufferCeiling then lines.tail else lines) ++ [message]

namespace BatchLedger

/-- The open batches are trees, and apart from the ignored references. -/
structure IsForest (batches : BatchLedger) : Prop where
  rooted : ∀ (reference : String) (frame : OpenBatch),
    batches.openBatches[reference]? = some frame → frame.replayRoot ≠ "" →
      ∃ root, batches.openBatches[frame.replayRoot]? = some root ∧
        root.replayRoot = frame.replayRoot ∧ root.kind.isSome = true
  apart : ∀ reference : String, batches.ignored.contains reference = true →
    batches.openBatches[reference]? = none
  named : batches.openBatches[""]? = none

/-- The ledger of a new connection. -/
theorem IsForest.fresh : ({} : BatchLedger).IsForest := ⟨by simp, by simp, by simp⟩

/-- The references are no longer open, and are ignored as far as there is room. -/
structure Swept (references : List String) (batches after : BatchLedger) : Prop where
  left : ∀ key : String,
    after.openBatches[key]? = if key ∈ references then none else batches.openBatches[key]?
  ignores : ∀ key : String, batches.ignored.contains key = true →
    after.ignored.contains key = true
  only : ∀ key : String, after.ignored.contains key = true →
    batches.ignored.contains key = true ∨ key ∈ references
  ignored : ∀ key ∈ references, key ≠ "" →
    after.ignored.contains key = true ∨ maxIgnoredBatches ≤ after.ignored.size
  grows : batches.ignored.size ≤ after.ignored.size

namespace Swept

variable {batches middle after : BatchLedger} {first second references : List String}

theorem refl (batches : BatchLedger) : Swept [] batches batches :=
  ⟨by simp, fun _ known => known, fun _ known => .inl known, by simp, le_refl _⟩

theorem trans (earlier : Swept first batches middle) (later : Swept second middle after) :
    Swept (first ++ second) batches after where
  left key := by
    rw [later.left, earlier.left]
    by_cases late : key ∈ second
    · simp [late]
    · simp [late]
  ignores key known := later.ignores key (earlier.ignores key known)
  only key known := by
    rcases later.only key known with before | late
    · rcases earlier.only key before with before | early
      · exact .inl before
      · exact .inr (List.mem_append_left second early)
    · exact .inr (List.mem_append_right first late)
  ignored key listed named := by
    rcases List.mem_append.mp listed with early | late
    · rcases earlier.ignored key early named with known | full
      · exact .inl (later.ignores key known)
      · exact .inr (full.trans later.grows)
    · exact later.ignored key late named
  grows := earlier.grows.trans later.grows

end Swept

/-- The ledger lost whole trees, whose references are ignored as far as there was room. -/
structure Tended (batches after : BatchLedger) : Prop where
  kept : ∀ (key : String) (frame : OpenBatch), after.openBatches[key]? = some frame →
    batches.openBatches[key]? = some frame
  gone : ∀ (key : String) (frame : OpenBatch), batches.openBatches[key]? = some frame →
    key ≠ "" → after.openBatches[key]? = none →
      after.ignored.contains key = true ∨ maxIgnoredBatches ≤ after.ignored.size
  roots : ∀ (key : String) (frame : OpenBatch), batches.openBatches[key]? = some frame →
    frame.replayRoot ≠ "" →
      (after.openBatches[frame.replayRoot]? = none ↔ after.openBatches[key]? = none)
  ignores : ∀ key : String, batches.ignored.contains key = true →
    after.ignored.contains key = true
  only : ∀ key : String, after.ignored.contains key = true →
    batches.ignored.contains key = true ∨
      (∃ frame, batches.openBatches[key]? = some frame) ∧ after.openBatches[key]? = none
  grows : batches.ignored.size ≤ after.ignored.size

namespace Tended

variable {batches middle after : BatchLedger}

theorem refl (forest : batches.IsForest) : Tended batches batches where
  kept key frame found := found
  gone key frame found named closed := by
    rw [found] at closed
    cases closed
  roots key frame found replayed := by
    obtain ⟨root, opened, -⟩ := forest.rooted key frame found replayed
    simp [opened, found]
  ignores key known := known
  only key known := .inl known
  grows := le_refl _

/-- What is not open does not open. -/
theorem absent (tended : Tended batches after) {key : String}
    (closed : batches.openBatches[key]? = none) : after.openBatches[key]? = none := by
  cases late : after.openBatches[key]? with
  | none => rfl
  | some frame =>
      rw [tended.kept key frame late] at closed
      cases closed

theorem trans (first : Tended batches middle) (second : Tended middle after) :
    Tended batches after where
  kept key frame found := first.kept key frame (second.kept key frame found)
  gone key frame found named closed := by
    cases between : middle.openBatches[key]? with
    | none =>
        rcases first.gone key frame found named between with known | full
        · exact .inl (second.ignores key known)
        · exact .inr (full.trans second.grows)
    | some frame => exact second.gone key frame between named closed
  roots key frame found replayed := by
    have early := first.roots key frame found replayed
    cases between : middle.openBatches[key]? with
    | none => simp [second.absent between, second.absent (early.mpr between)]
    | some held =>
        have before := first.kept key held between
        rw [found] at before
        obtain rfl := Option.some.inj before
        exact second.roots key frame between replayed
  ignores key known := second.ignores key (first.ignores key known)
  only key known := by
    rcases second.only key known with before | ⟨⟨between, opened⟩, closed⟩
    · rcases first.only key before with before | ⟨opened, absent⟩
      · exact .inl before
      · exact .inr ⟨opened, second.absent absent⟩
    · exact .inr ⟨⟨between, first.kept key between opened⟩, closed⟩
  grows := first.grows.trans second.grows

/-- Losing whole trees leaves trees. -/
theorem forest (tended : Tended batches after) (forest : batches.IsForest) : after.IsForest where
  rooted key frame found replayed := by
    have before := tended.kept key frame found
    obtain ⟨root, opened, own, kind⟩ := forest.rooted key frame before replayed
    cases late : after.openBatches[frame.replayRoot]? with
    | none =>
        have closed := (tended.roots key frame before replayed).mp late
        rw [found] at closed
        cases closed
    | some later =>
        have held := tended.kept _ later late
        rw [opened] at held
        obtain rfl := Option.some.inj held
        exact ⟨root, rfl, own, kind⟩
  apart key known := by
    rcases tended.only key known with before | ⟨-, closed⟩
    · exact tended.absent (forest.apart key before)
    · exact closed
  named := tended.absent forest.named

/-- Sweeping whole trees loses whole trees. -/
theorem of_swept {references : List String} (forest : batches.IsForest)
    (swept : Swept references batches after)
    (opened : ∀ key ∈ references, ∃ frame, batches.openBatches[key]? = some frame)
    (whole : ∀ (key : String) (frame : OpenBatch), batches.openBatches[key]? = some frame →
      frame.replayRoot ≠ "" → (frame.replayRoot ∈ references ↔ key ∈ references)) :
    Tended batches after where
  kept key frame found := by
    rw [swept.left] at found
    split at found
    · cases found
    · exact found
  gone key frame found named closed := by
    refine swept.ignored key ?_ named
    rw [swept.left] at closed
    by_contra outside
    rw [if_neg outside, found] at closed
    cases closed
  roots key frame found replayed := by
    obtain ⟨root, opened, -⟩ := forest.rooted key frame found replayed
    have both := whole key frame found replayed
    rw [swept.left, swept.left, opened, found]
    simp [both]
  ignores := swept.ignores
  only key known := by
    rcases swept.only key known with before | listed
    · exact .inl before
    · refine .inr ⟨opened key listed, ?_⟩
      rw [swept.left, if_pos listed]
  grows := swept.grows

end Tended

/-- Whether lines tagged with a reference are swallowed: it is ignored, or open in a tree. -/
def swallows (batches : BatchLedger) (reference : String) : Bool :=
  reference ≠ "" && (batches.ignored.contains reference ||
    (batches.openBatches[reference]?).any fun frame => frame.replayRoot ≠ "")

/-- What collecting a line does to the batches: nothing if its reference is ignored, and
otherwise its replay root buffers it. -/
inductive Collects (batches : BatchLedger) (message : IrcMessage) : BatchLedger → Prop
  | drops (ignored : batches.ignored.contains ((message.tagText "batch").getD "") = true) :
      Collects batches message batches
  | buffers {found root : OpenBatch}
      (opened : batches.openBatches[(message.tagText "batch").getD ""]? = some found)
      (held : batches.openBatches[found.replayRoot]? = some root) :
      Collects batches message
        { batches with
          openBatches := batches.openBatches.insert found.replayRoot
            { root with collected.lines := bufferLine root.collected.lines message } }

/-- Nothing is open and nothing is ignored. -/
def IsEmpty (batches : BatchLedger) : Prop :=
  ∀ key : String, batches.openBatches[key]? = none ∧ batches.ignored.contains key = false

/-- Nothing comes of nothing. -/
theorem Tended.isEmpty {batches after : BatchLedger} (tended : Tended batches after)
    (empty : batches.IsEmpty) : after.IsEmpty := by
  intro key
  refine ⟨tended.absent (empty key).1, ?_⟩
  by_contra known
  rcases tended.only key (by simpa using known) with before | ⟨⟨frame, opened⟩, -⟩
  · rw [(empty key).2] at before
    cases before
  · rw [(empty key).1] at opened
    cases opened

/-- What becomes of the trees and the ignored references, but for those that are closed by
name: a descendant stays while its root does, and is ignored afterwards unless the ignored
set is full; and what is ignored stays ignored. -/
structure Follows (closed : String → Prop) (batches after : BatchLedger) : Prop where
  stays : ∀ (key : String) (frame : OpenBatch), batches.openBatches[key]? = some frame →
    frame.replayRoot ≠ "" → ¬ closed key → after.openBatches[frame.replayRoot]? ≠ none →
      ∃ later, after.openBatches[key]? = some later ∧ later.replayRoot = frame.replayRoot
  orphaned : ∀ (key : String) (frame : OpenBatch), batches.openBatches[key]? = some frame →
    frame.replayRoot ≠ "" → ¬ closed key → after.openBatches[frame.replayRoot]? = none →
      after.ignored.contains key = true ∨ maxIgnoredBatches ≤ after.ignored.size
  ignored : ∀ key : String, batches.ignored.contains key = true → ¬ closed key →
    after.ignored.contains key = true

section Closing

variable {batches after : BatchLedger} {closed : String → Prop}

/-- An open reference is not empty. -/
theorem IsForest.reference_ne_empty (forest : batches.IsForest) {key : String} {frame : OpenBatch}
    (found : batches.openBatches[key]? = some frame) : key ≠ "" := by
  rintro rfl
  rw [forest.named] at found
  cases found

/-- What follows with fewer closed by name, follows with more. -/
theorem Follows.mono {more : String → Prop} (follows : Follows closed batches after)
    (implies : ∀ reference, closed reference → more reference) : Follows more batches after where
  stays key frame found replayed other :=
    follows.stays key frame found replayed (mt (implies key) other)
  orphaned key frame found replayed other :=
    follows.orphaned key frame found replayed (mt (implies key) other)
  ignored key known other := follows.ignored key known (mt (implies key) other)

theorem Tended.follows (tended : Tended batches after) (forest : batches.IsForest) :
    Follows closed batches after where
  stays key frame found replayed _ held := by
    cases late : after.openBatches[key]? with
    | none => exact absurd ((tended.roots key frame found replayed).mpr late) held
    | some later =>
        have before := tended.kept key later late
        rw [found] at before
        obtain rfl := Option.some.inj before
        exact ⟨frame, rfl, rfl⟩
  orphaned key frame found replayed _ left :=
    tended.gone key frame found (forest.reference_ne_empty found)
      ((tended.roots key frame found replayed).mp left)
  ignored key known _ := tended.ignores key known

/-- A change of the ignored references leaves the trees. -/
theorem IsForest.of_opens (forest : batches.IsForest)
    (opens : ∀ key : String, after.openBatches[key]? = batches.openBatches[key]?)
    (apart : ∀ key : String, after.ignored.contains key = true →
      batches.openBatches[key]? = none) : after.IsForest where
  rooted key frame found replayed := by
    rw [opens] at found ⊢
    exact forest.rooted key frame found replayed
  apart key known := by
    rw [opens]
    exact apart key known
  named := by
    rw [opens]
    exact forest.named

theorem Follows.of_opens (forest : batches.IsForest)
    (opens : ∀ (key : String) (frame : OpenBatch), batches.openBatches[key]? = some frame →
      after.openBatches[key]? = some frame)
    (ignored : ∀ key : String, batches.ignored.contains key = true → ¬ closed key →
      after.ignored.contains key = true) : Follows closed batches after where
  stays key frame found _ _ _ := ⟨frame, opens key frame found, rfl⟩
  orphaned key frame found replayed _ left := by
    obtain ⟨root, opened, -⟩ := forest.rooted key frame found replayed
    rw [opens _ root opened] at left
    cases left
  ignored := ignored

/-- What collecting a line opens: every batch as it was, but for the lines of a root. -/
theorem Collects.opens {message : IrcMessage} (collects : batches.Collects message after)
    (key : String) :
    (after.openBatches[key]?).map (fun frame => (frame.replayRoot, frame.kind)) =
      (batches.openBatches[key]?).map fun frame => (frame.replayRoot, frame.kind) := by
  cases collects with
  | drops ignored => rfl
  | @buffers found root opened held =>
      by_cases own : found.replayRoot = key
      · subst own
        simp [held]
      · simp [Std.TreeMap.getElem?_insert, own]

/-- Collecting a line ignores what was ignored. -/
theorem Collects.ignored {message : IrcMessage} (collects : batches.Collects message after) :
    after.ignored = batches.ignored := by
  cases collects
  all_goals rfl

/-- Collecting a line leaves trees, and every batch where it was. -/
theorem Collects.follows {message : IrcMessage} (collects : batches.Collects message after)
    (forest : batches.IsForest) : after.IsForest ∧ Follows closed batches after := by
  have opens := collects.opens
  have closes {key : String} (absent : batches.openBatches[key]? = none) :
      after.openBatches[key]? = none := by
    have same := opens key
    rw [absent] at same
    exact Option.map_eq_none_iff.mp same
  have stays {key : String} {frame : OpenBatch}
      (found : batches.openBatches[key]? = some frame) :
      ∃ later, after.openBatches[key]? = some later ∧ later.replayRoot = frame.replayRoot ∧
        later.kind = frame.kind := by
    have same := opens key
    rw [found] at same
    obtain ⟨later, late, equal⟩ := Option.map_eq_some_iff.mp same
    exact ⟨later, late, congrArg Prod.fst equal, congrArg Prod.snd equal⟩
  refine ⟨⟨fun key frame found replayed => ?_, fun key known => closes (forest.apart key ?_),
    closes forest.named⟩, ⟨fun key frame found _ _ _ => ?_, fun key frame found replayed _ gone => ?_,
      fun key known _ => ?_⟩⟩
  · cases before : batches.openBatches[key]? with
    | none =>
        rw [closes before] at found
        cases found
    | some earlier =>
        obtain ⟨later, late, same, -⟩ := stays before
        rw [found] at late
        obtain rfl := Option.some.inj late
        rw [same] at replayed ⊢
        obtain ⟨root, opened, own, kind⟩ := forest.rooted key earlier before replayed
        obtain ⟨held, late, sameRoot, sameKind⟩ := stays opened
        exact ⟨held, late, sameRoot.trans own, by rw [sameKind]; exact kind⟩
  · rw [collects.ignored] at known
    exact known
  · obtain ⟨later, late, same, -⟩ := stays found
    exact ⟨later, late, same⟩
  · obtain ⟨root, opened, -⟩ := forest.rooted key frame found replayed
    obtain ⟨held, late, -⟩ := stays opened
    rw [gone] at late
    cases late
  · rw [collects.ignored]
    exact known

end Closing

end BatchLedger

end Omairc.Session
