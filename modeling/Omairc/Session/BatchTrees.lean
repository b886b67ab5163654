import Omairc.Session.BatchForest
import Omairc.Session.LedgerFrames
import Omairc.Session.LedgerRuns
import Omairc.Session.Reference
import Omairc.Text.Maps

/-!
# The trees of the open batches

Every open batch of a replay names an open root. A tree that is closed or dropped goes as a
whole, and its references are ignored from then on, except those for which the ignored set
had no room.
-/

namespace Omairc.Session

open Omairc.Text Omairc.Irc

namespace Core

variable (core : Core)

/-! ## Sweeping -/

/-- Ignoring a reference that is not open sweeps it. -/
theorem ignoreBatch_swept {reference : String}
    (absent : core.batches.openBatches[reference]? = none) :
    BatchLedger.Swept [reference] core.batches (core.ignoreBatch reference).batches := by
  have left (key : String) :
      (core.batches.openBatches.erase reference)[key]? =
        if key ∈ [reference] then none else core.batches.openBatches[key]? := by
    rw [Std.TreeMap.getElem?_erase]
    by_cases same : reference = key
    · simp [same]
    · simp [same, Ne.symm same]
  unfold ignoreBatch
  simp only
  split_ifs with unnamed known full
  · refine ⟨fun key => ?_, fun _ known => known, fun _ known => .inl known, ?_, le_refl _⟩
    · by_cases same : key = reference
      · simp [same, absent]
      · simp [same]
    · intro key listed named
      exact absurd ((List.mem_singleton.mp listed).trans unnamed) named
  · refine ⟨left, fun _ known => known, fun _ known => .inl known, ?_, le_refl _⟩
    intro key listed named
    rw [List.mem_singleton.mp listed]
    exact .inl known
  · exact ⟨left, fun _ known => known, fun _ known => .inl known, fun _ _ _ => .inr full, le_refl _⟩
  · refine ⟨left, fun key known => ?_, fun key known => ?_, fun key listed named => .inl ?_, ?_⟩
    · simp [known]
    · simp only [Std.TreeSet.contains_insert, Bool.or_eq_true, compared_beq_eq,
        decide_eq_true_eq] at known
      rcases known with same | before
      · exact .inr (List.mem_singleton.mpr same.symm)
      · exact .inl before
    · simp [List.mem_singleton.mp listed]
    · exact Std.TreeSet.size_le_size_insert

/-- Ignoring references that are not open sweeps them. -/
theorem foldl_ignoreBatch_swept {references : List String}
    (absent : ∀ key ∈ references, core.batches.openBatches[key]? = none) :
    BatchLedger.Swept references core.batches (references.foldl ignoreBatch core).batches := by
  induction references generalizing core with
  | nil => exact .refl _
  | cons reference rest inductionHypothesis =>
      have first := core.ignoreBatch_swept (absent reference List.mem_cons_self)
      refine first.trans (inductionHypothesis (core.ignoreBatch reference) ?_)
      intro key listed
      rw [first.left]
      split
      · rfl
      · exact absent key (List.mem_cons_of_mem _ listed)

/-- Closing the children of a batch sweeps them. -/
theorem orphanBatches_swept (children : List String) :
    BatchLedger.Swept children core.batches (core.orphanBatches children).batches := by
  unfold orphanBatches
  induction children generalizing core with
  | nil => exact .refl _
  | cons child rest inductionHypothesis =>
      have swept := ignoreBatch_swept
        { core with batches.openBatches := core.batches.openBatches.erase child }
        (show (core.batches.openBatches.erase child)[child]? = none by simp)
      have first : BatchLedger.Swept [child] core.batches
          ({ core with
            batches.openBatches := core.batches.openBatches.erase child }.ignoreBatch
              child).batches := by
        refine ⟨fun key => ?_, swept.ignores, swept.only, swept.ignored, swept.grows⟩
        rw [swept.left]
        split
        · rfl
        · rename_i other
          rw [List.mem_singleton] at other
          simp [Std.TreeMap.getElem?_erase, Ne.symm other]
      exact first.trans (inductionHypothesis _)

/-- The open batches that a choice keeps, by reference. -/
theorem mem_chosen_iff (chosen : String → OpenBatch → Bool) (key : String) :
    key ∈ (core.batches.openBatches.toList.filter fun (reference, batch) =>
        chosen reference batch).map Prod.fst ↔
      ∃ frame, core.batches.openBatches[key]? = some frame ∧ chosen key frame = true := by
  rw [List.mem_map]
  constructor
  · rintro ⟨⟨held, batch⟩, member, rfl⟩
    obtain ⟨present, kept⟩ := List.mem_filter.mp member
    exact ⟨batch, Std.TreeMap.mem_toList_iff_getElem?_eq_some.mp present, kept⟩
  · rintro ⟨frame, found, kept⟩
    refine ⟨(key, frame), List.mem_filter.mpr ⟨?_, kept⟩, rfl⟩
    exact Std.TreeMap.mem_toList_iff_getElem?_eq_some.mpr found

/-- Whether an open batch is a replay root of a channel. -/
def rootsOf (channel reference : String) (batch : OpenBatch) : Bool :=
  batch.replayRoot = reference && core.foldChannel batch.collected.target = core.foldChannel channel

/-- Dropping the batches of a channel sweeps its roots and their children. -/
theorem dropHistoryBatches_swept (channel : String) :
    ∃ roots gone : List String,
      BatchLedger.Swept gone core.batches (core.dropHistoryBatches channel).batches ∧
        (∀ key, key ∈ roots ↔ ∃ frame, core.batches.openBatches[key]? = some frame ∧
          core.rootsOf channel key frame = true) ∧
        ∀ key, key ∈ gone ↔ ∃ frame, core.batches.openBatches[key]? = some frame ∧
          (key ∈ roots ∨ frame.replayRoot ∈ roots) := by
  unfold dropHistoryBatches
  simp only
  generalize ofChannel : (core.batches.openBatches.toList.filter fun (reference, batch) =>
    decide (batch.replayRoot = reference) &&
      decide (core.foldChannel batch.collected.target = core.foldChannel channel)).map
        Prod.fst = roots
  have listed (key : String) : key ∈ roots ↔
      ∃ frame, core.batches.openBatches[key]? = some frame ∧
        core.rootsOf channel key frame = true := by
    rw [← ofChannel]
    exact core.mem_chosen_iff (core.rootsOf channel) key
  split
  · rename_i none
    refine ⟨roots, [], .refl _, listed, fun key => ?_⟩
    rw [List.isEmpty_iff] at none
    simp [none]
  · generalize ofRoots : (core.batches.openBatches.toList.filter fun (reference, batch) =>
      roots.contains reference || roots.contains batch.replayRoot).map Prod.fst = gone
    have chosen (key : String) : key ∈ gone ↔
        ∃ frame, core.batches.openBatches[key]? = some frame ∧
          (roots.contains key || roots.contains frame.replayRoot) = true := by
      rw [← ofRoots]
      exact core.mem_chosen_iff (fun reference batch =>
        roots.contains reference || roots.contains batch.replayRoot) key
    have emptied : ∀ key ∈ gone, (gone.foldl (fun left key => left.erase key)
        core.batches.openBatches)[key]? = none := by
      intro key member
      rw [getElem?_foldl_erase, if_pos member]
    have erased := foldl_ignoreBatch_swept
      { core with
        batches.openBatches := gone.foldl (fun left key => left.erase key)
          core.batches.openBatches } emptied
    have swept : BatchLedger.Swept gone core.batches (gone.foldl ignoreBatch
        { core with
          batches.openBatches := gone.foldl (fun left key => left.erase key)
            core.batches.openBatches }).batches := by
      refine ⟨fun key => ?_, erased.ignores, erased.only, erased.ignored, erased.grows⟩
      rw [erased.left, getElem?_foldl_erase]
      split
      all_goals rfl
    exact ⟨roots, gone, swept, listed, fun key => by simpa using chosen key⟩

/-- Dropping the batches of a channel loses whole trees. -/
theorem dropHistoryBatches_tended (forest : core.batches.IsForest) (channel : String) :
    BatchLedger.Tended core.batches (core.dropHistoryBatches channel).batches := by
  obtain ⟨roots, gone, swept, listed, chosen⟩ := core.dropHistoryBatches_swept channel
  refine .of_swept forest swept (fun key member => ?_) fun key frame found replayed => ?_
  · obtain ⟨frame, found, -⟩ := (chosen key).mp member
    exact ⟨frame, found⟩
  · obtain ⟨root, opened, own, -⟩ := forest.rooted key frame found replayed
    have ofRoot (member : key ∈ roots) : frame.replayRoot = key := by
      obtain ⟨held, present, rooted⟩ := (listed key).mp member
      rw [found] at present
      obtain rfl := Option.some.inj present
      simp only [rootsOf, Bool.and_eq_true, decide_eq_true_eq] at rooted
      exact rooted.1
    constructor
    · intro member
      obtain ⟨held, present, rooted⟩ := (chosen _).mp member
      rw [opened] at present
      obtain rfl := Option.some.inj present
      rw [own, or_self] at rooted
      exact (chosen key).mpr ⟨frame, found, .inr rooted⟩
    · intro member
      obtain ⟨held, present, rooted⟩ := (chosen _).mp member
      rw [found] at present
      obtain rfl := Option.some.inj present
      refine (chosen _).mpr ⟨root, opened, .inl ?_⟩
      rcases rooted with rooted | rooted
      · rw [ofRoot rooted]
        exact rooted
      · exact rooted

/-- What is open after the batches of a channel were dropped was open before, and is no root
of the channel. -/
theorem dropHistoryBatches_opens {channel key : String} {frame : OpenBatch}
    (found : (core.dropHistoryBatches channel).batches.openBatches[key]? = some frame) :
    core.batches.openBatches[key]? = some frame ∧ core.rootsOf channel key frame = false := by
  obtain ⟨roots, gone, swept, listed, chosen⟩ := core.dropHistoryBatches_swept channel
  rw [swept.left] at found
  split at found
  · cases found
  · rename_i kept
    refine ⟨found, eq_false_of_ne_true fun rooted => kept ?_⟩
    exact (chosen key).mpr ⟨frame, found, .inl ((listed key).mpr ⟨frame, found, rooted⟩)⟩

/-- A line that is swallowed changes the batches alone. -/
theorem captureInBatch_outcome {message : IrcMessage}
    (swallowed : (core.captureInBatch message).2 = true) :
    ∃ batches, (core.captureInBatch message).1 = { core with batches } ∧
      core.batches.Collects message batches := by
  unfold captureInBatch at swallowed ⊢
  simp only at swallowed ⊢
  split_ifs at swallowed ⊢ with untagged ignored
  · exact ⟨core.batches, rfl, .drops ignored⟩
  · cases opened : core.batches.openBatches[(message.tagText "batch").getD ""]? with
    | none => simp [opened] at swallowed
    | some found =>
        rw [opened] at swallowed
        simp only at swallowed ⊢
        split_ifs at swallowed ⊢
        cases held : core.batches.openBatches[found.replayRoot]? with
        | none => simp [held] at swallowed
        | some root => exact ⟨_, rfl, .buffers opened held⟩

end Core

section Runs

variable [Platform] {unsettled : Prop} {core changed : Core}

/-- A move of the history loses whole trees. -/
theorem HistoryMove.tended (move : HistoryMove unsettled core changed) (forest : core.batches.IsForest) :
    BatchLedger.Tended core.batches changed.batches := by
  obtain ⟨middle, targets, before, after⟩ := move.drops
  have kept := before.of_requests.batches_eq
  rw [after.of_requests.batches_eq, ← kept]
  rw [← kept] at forest
  clear before after move kept
  induction targets generalizing middle with
  | nil => exact .refl forest
  | cons target rest inductionHypothesis =>
      have first := middle.dropHistoryBatches_tended forest target
      exact first.trans (inductionHypothesis _ (first.forest forest))

/-- A move of a line loses whole trees. -/
theorem LineMove.tended (move : LineMove unsettled core changed) (forest : core.batches.IsForest) :
    BatchLedger.Tended core.batches changed.batches := by
  have kept (same : changed.batches = core.batches) :
      BatchLedger.Tended core.batches changed.batches := by
    rw [same]
    exact .refl forest
  cases move with
  | quiet change => exact kept (congrArg Ledgers.batches change)
  | adopts features allowed change => exact kept (congrArg Ledgers.batches change)
  | history move => exact move.tended forest
  | marker move =>
      have agree := move.agree
      simp only [Agree, Ledgers.besidesMarkers, Ledgers.mk.injEq] at agree
      exact kept agree.1
  | label move =>
      have agree := move.agree
      simp only [Agree, Ledgers.besidesLabels, Ledgers.mk.injEq] at agree
      exact kept agree.1

theorem LineMoves.tended (moves : LineMoves unsettled core changed) (forest : core.batches.IsForest) :
    BatchLedger.Tended core.batches changed.batches := by
  induction moves with
  | refl => exact .refl forest
  | tail prior move inductionHypothesis =>
      exact inductionHypothesis.trans (move.tended (inductionHypothesis.forest forest))

/-! ## The BATCH lines -/

omit [Platform] in
/-- A BATCH token opens or closes, and its reference is not empty. -/
theorem batchReference_eq_some {token reference : String} {sign : Char}
    (found : batchReference token = some (sign, reference)) :
    (sign = '+' ∨ sign = '-') ∧ reference ≠ "" := by
  unfold batchReference at found
  split at found
  · cases found
  · split at found
    · cases found
    · rename_i letters
      split at found
      · rename_i signed
        cases found
        refine ⟨signed.1, fun same => ?_⟩
        exact signed.2 (String.ofList_injective (same.trans String.ofList_nil.symm))
      · cases found

namespace Core

variable (core) {reference : String}

omit [Platform] in
/-- The references of a root's children. -/
theorem mem_childrenOf (key : String) :
    key ∈ core.childrenOf reference ↔
      ∃ frame, core.batches.openBatches[key]? = some frame ∧ frame.replayRoot = reference := by
  unfold childrenOf
  rw [List.mem_map]
  constructor
  · rintro ⟨⟨held, frame⟩, member, rfl⟩
    obtain ⟨present, own⟩ := List.mem_filter.mp member
    exact ⟨frame, Std.TreeMap.mem_toList_iff_getElem?_eq_some.mp present, by simpa using own⟩
  · rintro ⟨frame, found, own⟩
    refine ⟨(key, frame), List.mem_filter.mpr ⟨?_, by simpa using own⟩, rfl⟩
    exact Std.TreeMap.mem_toList_iff_getElem?_eq_some.mpr found

omit [Platform] in
/-- The children that a removed batch leaves are swept. -/
theorem withoutTree_swept (reference : String) :
    ∃ children : List String,
      (∀ key, key ∈ children ↔ key ≠ reference ∧
        ∃ frame, core.batches.openBatches[key]? = some frame ∧ frame.replayRoot = reference) ∧
      BatchLedger.Swept children
        { core.batches with openBatches := core.batches.openBatches.erase reference }
        (core.withoutTree reference).batches := by
  refine ⟨_, fun key => ?_, orphanBatches_swept
    { core with batches.openBatches := core.batches.openBatches.erase reference }
    (Core.childrenOf { core with batches.openBatches := core.batches.openBatches.erase reference }
      reference)⟩
  rw [mem_childrenOf]
  by_cases same : reference = key
  · simp [same]
  · simp [Std.TreeMap.getElem?_erase, same, Ne.symm same]

omit [Platform] in
/-- What is open once a batch is removed with its children. -/
theorem withoutTree_opens (reference key : String) (frame : OpenBatch) :
    (core.withoutTree reference).batches.openBatches[key]? = some frame ↔
      core.batches.openBatches[key]? = some frame ∧ key ≠ reference ∧
        frame.replayRoot ≠ reference := by
  obtain ⟨children, child, swept⟩ := core.withoutTree_swept reference
  rw [swept.left]
  by_cases listed : key ∈ children
  · rw [if_pos listed]
    obtain ⟨-, held, opened, own⟩ := (child key).mp listed
    rw [opened]
    constructor
    · rintro ⟨⟩
    · rintro ⟨⟨⟩, -, other⟩
      exact absurd own other
  · rw [if_neg listed]
    by_cases same : reference = key
    · simp [same]
    · rw [Std.TreeMap.getElem?_erase, if_neg (by simpa using same)]
      refine ⟨fun opened => ⟨opened, Ne.symm same, fun own => listed ?_⟩, fun opened => opened.1⟩
      exact (child key).mpr ⟨Ne.symm same, frame, opened, own⟩

omit [Platform] in
/-- Removing a batch with its children leaves trees, and ignores the children. -/
theorem withoutTree_follows (forest : core.batches.IsForest) (reference : String) :
    (core.withoutTree reference).batches.IsForest ∧
      BatchLedger.Follows (· = reference) core.batches (core.withoutTree reference).batches := by
  obtain ⟨children, child, swept⟩ := core.withoutTree_swept reference
  have left := core.withoutTree_opens reference
  refine ⟨⟨fun key frame found replayed => ?_, fun key known => ?_, ?_⟩,
    ⟨fun key frame found replayed other held => ?_, fun key frame found replayed other gone => ?_,
      fun key known _ => swept.ignores key known⟩⟩
  · obtain ⟨before, other, elsewhere⟩ := (left key frame).mp found
    obtain ⟨root, opened, own, kind⟩ := forest.rooted key frame before replayed
    exact ⟨root, (left _ root).mpr ⟨opened, elsewhere, own ▸ elsewhere⟩, own, kind⟩
  · cases late : (core.withoutTree reference).batches.openBatches[key]? with
    | none => rfl
    | some frame =>
        obtain ⟨before, other, elsewhere⟩ := (left key frame).mp late
        rcases swept.only key known with ignored | listed
        · rw [forest.apart key ignored] at before
          cases before
        · obtain ⟨-, held, found, own⟩ := (child key).mp listed
          rw [before] at found
          obtain rfl := Option.some.inj found
          exact absurd own elsewhere
  · cases late : (core.withoutTree reference).batches.openBatches[""]? with
    | none => rfl
    | some frame =>
        obtain ⟨before, -⟩ := (left "" frame).mp late
        rw [forest.named] at before
        cases before
  · refine ⟨frame, (left key frame).mpr ⟨found, other, fun own => ?_⟩, rfl⟩
    cases late : (core.withoutTree reference).batches.openBatches[frame.replayRoot]? with
    | none => exact held late
    | some root => exact ((left _ root).mp late).2.1 own
  · obtain ⟨root, opened, own, -⟩ := forest.rooted key frame found replayed
    have closes : frame.replayRoot = reference := by
      by_contra elsewhere
      rw [(left _ root).mpr ⟨opened, elsewhere, own ▸ elsewhere⟩] at gone
      cases gone
    exact swept.ignored key ((child key).mpr ⟨other, frame, found, closes⟩)
      (forest.reference_ne_empty found)

/-- Closing a batch leaves trees, and ignores what is left of its own. -/
theorem closeBatch_follows (forest : core.batches.IsForest) :
    (core.closeBatch reference).batches.IsForest ∧
      BatchLedger.Follows (· = reference) core.batches (core.closeBatch reference).batches := by
  have same : BatchLedger.Follows (· = reference) core.batches core.batches :=
    (BatchLedger.Tended.refl forest).follows forest
  have removed := core.withoutTree_follows forest reference
  rw [closeBatch_eq]
  split
  · constructor
    · refine forest.of_opens (fun _ => rfl) fun key known => forest.apart key ?_
      simp only [Std.TreeSet.contains_erase, Bool.and_eq_true] at known
      exact known.2
    · refine .of_opens forest (fun _ _ found => found) fun key known other => ?_
      simp only [Std.TreeSet.contains_erase, Bool.and_eq_true, bne, compared_beq_eq,
        Bool.not_eq_true', decide_eq_false_iff_not]
      exact ⟨Ne.symm other, known⟩
  · split
    · exact ⟨forest, same⟩
    · rename_i frame found
      obtain ⟨-, -, batches⟩ := core.removedBatch_frame reference frame
      rw [← batches] at removed
      split
      · exact removed
      · split
        · rw [(deliverBatch_agree _ frame).batches_eq]
          exact removed
        · exact removed

/-- A batch that opens is outside the trees, or joins the tree of its parent, or is a root. -/
theorem openedFrame_root (message : IrcMessage) (reference : String) :
    (core.openedFrame message reference).replayRoot = "" ∨
      (∃ parent, core.batches.openBatches[(message.tagText "batch").getD ""]? = some parent ∧
        parent.replayRoot ≠ "" ∧
          (core.openedFrame message reference).replayRoot = parent.replayRoot) ∨
      (core.openedFrame message reference).replayRoot = reference ∧
        (core.openedFrame message reference).kind.isSome = true := by
  unfold openedFrame
  simp only
  generalize opened : core.batches.openBatches[(message.tagText "batch").getD ""]? = found
  by_cases inside : (found.map OpenBatch.replayRoot).getD "" = ""
  · rw [if_neg (not_not.mpr inside)]
    by_cases replays : (replayKindFor (message.textParam 1)).isSome = true
    · rw [if_pos replays, if_pos rfl]
      exact .inr (.inr ⟨rfl, replays⟩)
    · rw [if_neg replays]
      refine .inl ?_
      split
      all_goals rfl
  · rw [if_pos inside]
    cases found with
    | none => exact absurd rfl inside
    | some parent =>
        refine .inr (.inl ⟨parent, rfl, inside, ?_⟩)
        split
        all_goals rfl

/-- A batch that was not open and not ignored joins a tree, or is the root of one, or is none. -/
theorem openedFrame_forest (forest : core.batches.IsForest) (message : IrcMessage)
    (named : reference ≠ "") (closed : core.batches.openBatches[reference]? = none)
    (unignored : core.batches.ignored.contains reference = false) :
    BatchLedger.IsForest
      { core.batches with
        openBatches := core.batches.openBatches.insert reference
          (core.openedFrame message reference) } := by
  have opens (key : String) :
      (core.batches.openBatches.insert reference (core.openedFrame message reference))[key]? =
        if reference = key then some (core.openedFrame message reference)
        else core.batches.openBatches[key]? := by
    simp [Std.TreeMap.getElem?_insert]
  have older {key : String} {frame : OpenBatch}
      (found : core.batches.openBatches[key]? = some frame) : reference ≠ key := by
    rintro rfl
    rw [closed] at found
    cases found
  refine ⟨fun key frame found replayed => ?_, fun key known => ?_, ?_⟩
  · simp only [opens] at found ⊢
    split at found
    · rename_i own
      subst own
      obtain rfl := Option.some.inj found
      rcases core.openedFrame_root message reference with
        outside | ⟨parent, opened, inside, joins⟩ | ⟨own, replays⟩
      · exact absurd outside replayed
      · obtain ⟨root, opened, own, kind⟩ := forest.rooted _ parent opened inside
        rw [joins]
        exact ⟨root, by rw [if_neg (older opened)]; exact opened, own, kind⟩
      · rw [own, if_pos rfl]
        exact ⟨_, rfl, own, replays⟩
    · obtain ⟨root, opened, own, kind⟩ := forest.rooted key frame found replayed
      exact ⟨root, by rw [if_neg (older opened)]; exact opened, own, kind⟩
  · simp only [opens]
    split
    · rename_i own
      subst own
      rw [unignored] at known
      cases known
    · exact forest.apart key known
  · simp only [opens]
    rw [if_neg named]
    exact forest.named

/-- What is open after a close was open before. -/
theorem closeBatch_opens {reference key : String} {frame : OpenBatch}
    (found : (core.closeBatch reference).batches.openBatches[key]? = some frame) :
    core.batches.openBatches[key]? = some frame := by
  rw [closeBatch_eq] at found
  split at found
  · exact found
  · split at found
    · exact found
    · rename_i closed opened
      have removed {core' : Core}
          (same : core'.batches = (core.removedBatch reference closed).batches)
          (found : core'.batches.openBatches[key]? = some frame) :
          core.batches.openBatches[key]? = some frame := by
        obtain ⟨-, -, batches⟩ := core.removedBatch_frame reference closed
        rw [same, batches] at found
        exact ((core.withoutTree_opens reference key frame).mp found).1
      split at found
      · exact removed rfl found
      · split at found
        · exact removed (deliverBatch_agree _ closed).batches_eq found
        · exact removed rfl found

/-- Whether a batch that opens answers an outstanding request, and so needs no room. -/
def answersOutstanding (message : IrcMessage) : Bool :=
  (replayKindFor (message.textParam 1) = some .targets && core.history.targetsPending) ||
    (replayKindFor (message.textParam 1) = some .chat &&
      core.answersPendingHistory (message.textParam 2)) ||
    (eqIgnoreAsciiCase (message.textParam 1) "labeled-response" &&
      core.hasPendingRequestLabel ((message.tagText "label").getD ""))

/-- What opening a batch opens: nothing new, or a reference that was not open, which answers a
request or has room. -/
theorem openBatch_outcome (message : IrcMessage) (reference : String) :
    (∀ (key : String) (frame : OpenBatch),
      (core.openBatch message reference).batches.openBatches[key]? = some frame →
        core.batches.openBatches[key]? = some frame) ∨
      core.batches.openBatches[reference]? = none ∧
        (core.answersOutstanding message = true ∨
          core.batches.openBatches.size < maxOpenBatches) ∧
        core.openBatch message reference =
          { core with
            batches.openBatches := core.batches.openBatches.insert reference
              (core.openedFrame message reference) } := by
  unfold openBatch
  simp only
  split
  · exact .inl fun _ _ found => found
  · rename_i fresh
    have closed : core.batches.openBatches[reference]? = none := by
      rw [Std.TreeMap.contains_eq_isSome_getElem?, Option.not_isSome_iff_eq_none] at fresh
      exact fresh
    have ignoring (key : String) (frame : OpenBatch)
        (found : (core.ignoreBatch reference).batches.openBatches[key]? = some frame) :
        core.batches.openBatches[key]? = some frame := by
      rw [(core.ignoreBatch_swept closed).left] at found
      split at found
      · cases found
      · exact found
    split
    · exact .inl ignoring
    · split
      · split
        all_goals exact .inl ignoring
      · split
        · exact .inl fun _ _ found => found
        · rename_i room
          refine .inr ⟨closed, ?_, rfl⟩
          by_cases answers : core.answersOutstanding message = true
          · exact .inl answers
          · refine .inr (not_le.mp fun full => room ?_)
            simp only [answersOutstanding, Bool.or_eq_true, not_or, Bool.not_eq_true] at answers
            simp [answers.1.1, answers.1.2, answers.2, full]

/-- Opening a batch leaves trees, and every batch where it was. -/
theorem openBatch_follows (forest : core.batches.IsForest) (message : IrcMessage)
    (named : reference ≠ "") :
    (core.openBatch message reference).batches.IsForest ∧
      BatchLedger.Follows (fun _ => False) core.batches
        (core.openBatch message reference).batches := by
  have same : BatchLedger.Follows (fun _ => False) core.batches core.batches :=
    (BatchLedger.Tended.refl forest).follows forest
  unfold openBatch
  simp only
  split
  · exact ⟨forest, same⟩
  · rename_i fresh
    have closed : core.batches.openBatches[reference]? = none := by
      rw [Std.TreeMap.contains_eq_isSome_getElem?, Option.not_isSome_iff_eq_none] at fresh
      exact fresh
    have swept := core.ignoreBatch_swept closed
    have opens (key : String) : (core.ignoreBatch reference).batches.openBatches[key]? =
        core.batches.openBatches[key]? := by
      rw [swept.left]
      split
      · rename_i own
        rw [List.mem_singleton.mp own, closed]
      · rfl
    have ignoring : (core.ignoreBatch reference).batches.IsForest ∧
        BatchLedger.Follows (fun _ => False) core.batches (core.ignoreBatch reference).batches := by
      constructor
      · refine forest.of_opens opens fun key known => ?_
        rcases swept.only key known with before | own
        · exact forest.apart key before
        · rw [List.mem_singleton.mp own]
          exact closed
      · exact .of_opens forest (fun key frame found => (opens key).trans found)
          fun key known _ => swept.ignores key known
    split
    · exact ignoring
    · split
      · split
        all_goals exact ignoring
      · rename_i unignored
        split
        · exact ⟨forest, same⟩
        · simp only [Bool.or_eq_true, not_or, Bool.not_eq_true] at unignored
          refine ⟨core.openedFrame_forest forest message named closed unignored.1.1, ?_⟩
          refine .of_opens forest (fun key frame found => ?_) fun key known _ => known
          have other : reference ≠ key := by
            rintro rfl
            rw [closed] at found
            cases found
          simp [Std.TreeMap.getElem?_insert, other, found]

omit [Platform] in
/-- A tagged line that a replay or an ignored reference takes. -/
theorem captureInBatch_swallows (forest : core.batches.IsForest) {message : IrcMessage}
    (swallowed : core.batches.swallows ((message.tagText "batch").getD "") = true) :
    (core.captureInBatch message).2 = true := by
  simp only [BatchLedger.swallows, Bool.and_eq_true, Bool.or_eq_true, decide_eq_true_eq]
    at swallowed
  obtain ⟨tagged, taken⟩ := swallowed
  unfold captureInBatch
  simp only
  rw [if_neg tagged]
  split_ifs with ignored
  · rfl
  · obtain ⟨found, opened, inside⟩ := (Option.any_eq_true _ _).mp (taken.resolve_left ignored)
    rw [opened]
    have replayed : found.replayRoot ≠ "" := by simpa using inside
    obtain ⟨root, held, -⟩ := forest.rooted _ found opened replayed
    simp only
    rw [if_neg replayed, held]

end Core

/-! ## Every run -/

/-- The ledger lost whole trees, or was emptied for a new connection. -/
theorem LedgerMoves.tended (moves : LedgerMoves unsettled core changed) (forest : core.batches.IsForest) :
    BatchLedger.Tended core.batches changed.batches ∨ changed.batches.IsEmpty := by
  induction moves with
  | refl => exact .inl (.refl forest)
  | @tail middle last prior move inductionHypothesis =>
      cases move with
      | line move =>
          rcases inductionHypothesis with tended | empty
          · exact .inl (tended.trans (move.tended (tended.forest forest)))
          · have forest : middle.batches.IsForest :=
              ⟨fun key frame found => absurd (found.symm.trans (empty key).1) (by simp),
                fun key _ => (empty key).1, (empty "").1⟩
            exact .inr ((move.tended forest).isEmpty empty)
      | resets =>
          refine .inr ?_
          rw [show middle.resetForConnection.batches = {} from
            congrArg Ledgers.batches middle.resetForConnection_ledgers]
          exact fun key => ⟨by simp, by simp⟩

/-- An event leaves trees. -/
theorem LedgerEvent.follows (core : Core) (event : LedgerEvent) (forest : core.batches.IsForest) :
    (event.apply core).batches.IsForest ∧
      BatchLedger.Follows
        (fun reference => match event with
          | .batch message => batchReference (message.textParam 0) = some ('-', reference)
          | _ => False)
        core.batches (event.apply core).batches := by
  have same : core.batches.IsForest ∧
      BatchLedger.Follows (fun _ => False) core.batches core.batches :=
    ⟨forest, (BatchLedger.Tended.refl forest).follows forest⟩
  cases event with
  | batch message =>
      have reported : (core.reportInbound message).batches = core.batches := rfl
      rw [LedgerEvent.apply, Core.handleBatch]
      simp only
      split
      · rename_i unnamed
        exact ⟨forest, (BatchLedger.Tended.refl forest).follows forest⟩
      · rename_i reference closing
        obtain ⟨trees, follows⟩ := (core.reportInbound message).closeBatch_follows forest
        refine ⟨trees, follows.mono ?_⟩
        rintro _ rfl
        exact closing
      · rename_i reference opening
        obtain ⟨trees, follows⟩ := (core.reportInbound message).openBatch_follows forest message
          (batchReference_eq_some opening).2
        exact ⟨trees, follows.mono fun _ impossible => impossible.elim⟩
  | collects message =>
      have prepared : (core.prepareMessage message).batches = core.batches :=
        congrArg Ledgers.batches (core.prepareMessage_ledgers message)
      rw [LedgerEvent.apply]
      by_cases swallowed : ((core.prepareMessage message).captureInBatch message).2 = true
      · obtain ⟨batches, collecting, collects⟩ := Core.captureInBatch_outcome _ swallowed
        rw [prepared] at collects
        rw [collecting]
        exact collects.follows forest
      · rw [Core.captureInBatch_of_uncaptured _ (eq_false_of_ne_true swallowed), prepared]
        exact ⟨forest, (BatchLedger.Tended.refl forest).follows forest⟩
  | begins =>
      have begun := core.beginLabeledRequest_agree
      simp only [Agree, Ledgers.besidesLabels, Ledgers.mk.injEq] at begun
      rw [LedgerEvent.apply, show core.beginLabeledRequest.1.batches = _ from begun.1]
      exact same
  | drops label =>
      have dropped := core.dropRequestLabel_agree label
      simp only [Agree, Ledgers.besidesLabels, Ledgers.mk.injEq] at dropped
      rw [LedgerEvent.apply, show (core.dropRequestLabel label).batches = _ from dropped.1]
      exact same

namespace System

variable {system next : System} {config : SessionConfig}

omit [Platform] in
/-- The reference that a step closes by name. -/
def closedBatch (system : System) (action : Action) : Option String :=
  (system.batchLine action).bind fun message =>
    match batchReference (message.textParam 0) with
    | some ('-', reference) => some reference
    | _ => none

/-- The open batches of every reachable session are trees. -/
theorem Reachable.isForest (reachable : Reachable config system) :
    system.core.batches.IsForest := by
  refine ledger_invariant (fun ledgers => ledgers.batches.IsForest) .fresh (fun _ kept => kept)
    (fun move forest => ?_) (fun allowed found same forest => ?_) reachable
  · cases move with
    | line move => exact (move.tended forest).forest forest
    | resets =>
        rw [Core.resetForConnection_ledgers]
        exact .fresh
  · exact (LedgerEvent.follows _ _ forest).1

/-- The open batches are trees, a line of a tree or of an ignored reference is swallowed, and
a step keeps the descendants of the open roots and ignores those of the others, unless the
ignored set is full, or empties the ledger for a new connection, which no line does. -/
theorem batch_trees (reachable : Reachable config system) :
    system.core.batches.IsForest ∧
      (∀ message, system.core.ignores message = false → message.command ≠ "BATCH" →
        system.core.batches.swallows ((message.tagText "batch").getD "") = true →
          ((system.core.prepareMessage message).captureInBatch message).2 = true ∧
            system.core.handleMessage message =
              ((system.core.prepareMessage message).captureInBatch message).1) ∧
      ∀ label next, transition system label = some next →
        BatchLedger.Follows (fun reference => system.closedBatch label.2 = some reference)
            system.core.batches next.core.batches ∨
          label.2 ≠ .handleLine ∧ next.core.batches.IsEmpty := by
  have forest := reachable.isForest
  refine ⟨forest, fun message unignored other swallowed => ?_, fun label next stepped => ?_⟩
  · have captured := system.core.captureInBatch_swallows forest swallowed
    refine ⟨?_, system.core.handleMessage_of_captured unignored other captured⟩
    rw [Core.captureInBatch_prepared]
    exact captured
  · have orderly := reachable.orderly
    have moves := step_moves orderly stepped
    cases found : system.ledgerEvent label.2 with
    | some event =>
        rw [found] at moves
        have same : next.core.batches = (event.apply (system.core.withReadings label.1)).batches :=
          congrArg Ledgers.batches moves
        rw [same]
        have follows := (LedgerEvent.follows (system.core.withReadings label.1) event forest).2
        refine .inl (follows.mono fun reference closes => ?_)
        have performed := action_of_ledgerEvent found
        cases event with
        | batch message =>
            obtain ⟨handles, batch⟩ := performed
            simp only at closes
            rw [handles, closedBatch, batch]
            simp [closes]
        | collects message => exact closes.elim
        | begins => exact closes.elim
        | drops name => exact closes.elim
    | none =>
        rw [found] at moves
        by_cases handles : label.2 = .handleLine
        · rw [handles] at found
          have stepped : system.step label.1 .handleLine = some next := handles ▸ stepped
          exact .inl (((step_lineMoves orderly stepped found).tended forest).follows forest)
        · rcases LedgerMoves.tended moves forest with tended | empty
          · exact .inl (tended.follows forest)
          · exact .inr ⟨handles, empty⟩

end System

end Runs

section Reference

/-- The runs are on the reference platform. -/
local instance treePlatform : Platform := reference

/-- A registered session that takes bouncer playback but asks for no history. -/
def playbackActions : List Action :=
  connectActions ++ readActions [":s CAP * LS :batch"] ++ performActions 3 ++
    readActions [":s CAP * ACK :batch", ":s 001 nick :hi"] ++ performActions 1

namespace System

/-- The session holds a playback batch and a batch inside it. -/
theorem batch_trees_playback :
    ∃ system : System, system.core.batches.openBatches.size = 2 ∧
      system.core.batches.IsForest ∧
      (∀ message, system.core.ignores message = false → message.command ≠ "BATCH" →
        system.core.batches.swallows ((message.tagText "batch").getD "") = true →
          ((system.core.prepareMessage message).captureInBatch message).2 = true ∧
            system.core.handleMessage message =
              ((system.core.prepareMessage message).captureInBatch message).1) ∧
      ∀ label next, transition system label = some next →
        BatchLedger.Follows (fun reference => system.closedBatch label.2 = some reference)
            system.core.batches next.core.batches ∨
          label.2 ≠ .handleLine ∧ next.core.batches.IsEmpty := by
  have ran : ((initial plaintextProfile).run (underOneClock (playbackActions ++ readActions
      [":s BATCH +p znc.in/playback #a", "@batch=p :s BATCH +c other"]))).any
      (fun system => decide (system.core.batches.openBatches.size = 2)) = true := by
    decide +kernel
  obtain ⟨system, taken, opened⟩ := exists_of_any ran
  exact ⟨system, of_decide_eq_true opened, batch_trees (.of_runAll taken)⟩

/-- Thirty-two batches of a history that was not asked for leave no room among the ignored
references, so the child of a playback batch is forgotten when the batch closes. -/
theorem full_ignored_set_forgets :
    ¬ ∀ config system, Reachable config system → ∀ label next,
      transition system label = some next → ∀ (key root : String) (frame : OpenBatch),
        system.core.batches.openBatches[key]? = some frame → frame.replayRoot = root →
          key ≠ root → system.closedBatch label.2 = some root →
            next.core.batches.ignored.contains key = true := by
  intro law
  have ran : ((initial plaintextProfile).run (underOneClock (playbackActions ++
      readActions [":s BATCH +p znc.in/playback #a", "@batch=p :s BATCH +c other"] ++
        ((List.range 32).flatMap fun index =>
          readActions [":s BATCH +i" ++ toString index ++ " chathistory #a"]) ++
      (readActions [":s BATCH -p"]).take 1))).any
      (fun system => (system.core.batches.openBatches["c"]?).any (fun frame =>
        frame.replayRoot = "p") && decide (system.closedBatch .handleLine = some "p") &&
          (transition system ({}, .handleLine)).any fun next =>
            !next.core.batches.ignored.contains "c") = true := by
    decide +kernel
  obtain ⟨system, taken, ended⟩ := exists_of_any ran
  simp only [Bool.and_eq_true, decide_eq_true_eq] at ended
  obtain ⟨⟨inside, closes⟩, forgets⟩ := ended
  obtain ⟨frame, opened, root⟩ := exists_of_any inside
  obtain ⟨next, stepped, forgotten⟩ := exists_of_any forgets
  have ignored := law _ system (.of_runAll taken) _ next stepped "c" "p" frame opened
    (of_decide_eq_true root) (by decide) closes
  simp [ignored] at forgotten

end System

end Reference

end Omairc.Session
