import Omairc.Session.BatchTrees
import Omairc.Session.HistoryRequests
import Omairc.Session.ReplayBuffers

/-!
# The pages of an AFTER chain

A call of `requestHistoryAfter` sets the page count of its target to one, and each full page
that arrives asks for the next and adds one, until the cap is met and one LATEST closes the
chain. While a chain is under way its page count bounds the requests made for it. The other
operations on the ledgers ask for no page, and keep the count while the chain lasts.
-/

namespace Omairc.Session

open Omairc.Text Omairc.Irc

/-- The requests of one AFTER chain: its pages, and the LATEST that closes it. -/
structure ChainRecord where
  afters : Nat := 0
  latests : Nat := 0

namespace Ledgers

/-- Fold a channel name under the server's case mapping. -/
def foldChannel (ledgers : Ledgers) (channel : String) : String :=
  ledgers.features.caseMapping.normalize channel

/-- The membership generation of a folded channel. -/
def generation (ledgers : Ledgers) (folded : String) : Nat :=
  (ledgers.history.generation[folded]?).getD 0

/-- The pages counted for a folded channel. -/
def pages (ledgers : Ledgers) (folded : String) : Nat :=
  max ((ledgers.history.afterPages[folded]?).getD 1) 1

/-- An open batch that answers an AFTER request of a folded channel. -/
structure OpensPage (ledgers : Ledgers) (folded reference : String) (batch : OpenBatch) : Prop where
  opened : ledgers.batches.openBatches[reference]? = some batch
  answers : batch.historyRequest = some .after
  target : ledgers.foldChannel batch.collected.target = folded

/-- A page of a folded channel is arriving at its current generation. -/
def Arrives (ledgers : Ledgers) (folded reference : String) : Prop :=
  ∃ batch, ledgers.OpensPage folded reference batch ∧ batch.generation = ledgers.generation folded

/-- An AFTER chain of a folded channel is under way. -/
def Chains (ledgers : Ledgers) (folded : String) : Prop :=
  ledgers.history.pendingKind[folded]? = some .after ∨ ∃ reference, ledgers.Arrives folded reference

/-- The pages of a folded channel arrive as replay roots, one at a time, and its page count
bounds the requests of the chain that is under way. -/
structure PagesCounted (ledgers : Ledgers) (folded : String) (record : ChainRecord) : Prop where
  rooted : ∀ reference batch, ledgers.OpensPage folded reference batch →
    batch.replayRoot = reference ∧ batch.kind = some .chat ∧ batch.collected.target ≠ "" ∧
      batch.generation ≤ ledgers.generation folded
  alone : ∀ first second, ledgers.Arrives folded first → ledgers.Arrives folded second →
    first = second
  counted : ledgers.Chains folded → record.afters ≤ ledgers.pages folded ∧ record.latests = 0
  bounded : record.afters ≤ historyAfterPageCap ∧ record.latests ≤ 1
  capped : ledgers.history.afterPageCap = historyAfterPageCap

/-- A change that opens no page of a folded channel and asks for none, and keeps the page
count while a chain is under way. -/
structure Dwindles (folded : String) (ledgers after : Ledgers) : Prop where
  features : after.features = ledgers.features
  capped : after.history.afterPageCap = ledgers.history.afterPageCap
  opens : ∀ reference batch, after.OpensPage folded reference batch →
    ∃ earlier, ledgers.OpensPage folded reference earlier ∧
      earlier.replayRoot = batch.replayRoot ∧ earlier.kind = batch.kind ∧
      earlier.collected.target = batch.collected.target ∧ earlier.generation = batch.generation
  ages : ledgers.generation folded ≤ after.generation folded
  pending : after.history.pendingKind[folded]? = some .after →
    ledgers.history.pendingKind[folded]? = some .after
  counted : after.Chains folded → after.pages folded = ledgers.pages folded

namespace Dwindles

variable {folded : String} {ledgers after : Ledgers} {record : ChainRecord}

/-- A page that is arriving after the change was arriving before it. -/
theorem arrives (change : Dwindles folded ledgers after) (counted : ledgers.PagesCounted folded record)
    {reference : String} (arriving : after.Arrives folded reference) :
    ledgers.Arrives folded reference := by
  obtain ⟨batch, opened, current⟩ := arriving
  obtain ⟨earlier, before, -, -, -, same⟩ := change.opens reference batch opened
  refine ⟨earlier, before, le_antisymm (counted.rooted reference earlier before).2.2.2 ?_⟩
  rw [same, current]
  exact change.ages

/-- A chain that is under way after the change was under way before it. -/
theorem chains (change : Dwindles folded ledgers after) (counted : ledgers.PagesCounted folded record)
    (chaining : after.Chains folded) : ledgers.Chains folded := by
  rcases chaining with pending | ⟨reference, arriving⟩
  · exact .inl (change.pending pending)
  · exact .inr ⟨reference, change.arrives counted arriving⟩

/-- The count of the pages outlasts the change. -/
theorem pagesCounted (change : Dwindles folded ledgers after)
    (counted : ledgers.PagesCounted folded record) : after.PagesCounted folded record where
  rooted reference batch opened := by
    obtain ⟨earlier, before, root, kind, target, same⟩ := change.opens reference batch opened
    obtain ⟨own, chat, named, aged⟩ := counted.rooted reference earlier before
    rw [← root, ← kind, ← target, ← same]
    exact ⟨own, chat, named, aged.trans change.ages⟩
  alone first second arriving other :=
    counted.alone first second (change.arrives counted arriving) (change.arrives counted other)
  counted chaining := by
    rw [change.counted chaining]
    exact counted.counted (change.chains counted chaining)
  bounded := counted.bounded
  capped := change.capped.trans counted.capped

end Dwindles

end Ledgers

/-- A change of the requests that asks for no page of a folded channel and keeps its count. -/
structure HistoryLedger.Wanes (folded : String) (history after : HistoryLedger) : Prop where
  capped : after.afterPageCap = history.afterPageCap
  ages : (history.generation[folded]?).getD 0 ≤ (after.generation[folded]?).getD 0
  pending : after.pendingKind[folded]? = some .after → history.pendingKind[folded]? = some .after
  pages : after.afterPages[folded]? = history.afterPages[folded]?

namespace HistoryLedger.Wanes

variable {folded : String} {history middle after : HistoryLedger}

theorem refl (folded : String) (history : HistoryLedger) : history.Wanes folded history :=
  ⟨rfl, le_refl _, id, rfl⟩

theorem trans (first : history.Wanes folded middle) (second : middle.Wanes folded after) :
    history.Wanes folded after where
  capped := second.capped.trans first.capped
  ages := first.ages.trans second.ages
  pending kept := first.pending (second.pending kept)
  pages := second.pages.trans first.pages

/-- Clearing the request of a target. -/
theorem clear (history : HistoryLedger) (key : String) (pending : StringMap Nat)
    (pendingBefore : StringSet) :
    history.Wanes folded
      { history with pending, pendingBefore, pendingKind := history.pendingKind.erase key } where
  capped := rfl
  ages := le_refl _
  pending kept := by
    simp only [Std.TreeMap.getElem?_erase] at kept
    split at kept
    · cases kept
    · exact kept
  pages := rfl

/-- Recording a request of another kind than AFTER, or for another target. -/
theorem note (history : HistoryLedger) {key : String} {kind : HistoryRequestKind}
    (other : kind = .after → key ≠ folded) (asked pendingBefore : StringSet)
    (pending : StringMap Nat) :
    history.Wanes folded
      { history with
        asked, pending, pendingBefore, pendingKind := history.pendingKind.insert key kind } where
  capped := rfl
  ages := le_refl _
  pending kept := by
    simp only [Std.TreeMap.getElem?_insert] at kept
    split at kept
    · rename_i same
      exact absurd (by simpa using same) (other (Option.some.inj kept))
    · exact kept
  pages := rfl

end HistoryLedger.Wanes

namespace Ledgers.Dwindles

variable {folded : String} {ledgers after : Ledgers}

/-- A change that opens no batch, and asks for no page. -/
theorem of_wanes (fewer : ∀ (reference : String) (batch : OpenBatch),
      after.batches.openBatches[reference]? = some batch →
        ledgers.batches.openBatches[reference]? = some batch)
    (features : after.features = ledgers.features)
    (wanes : ledgers.history.Wanes folded after.history) : Dwindles folded ledgers after where
  features := features
  capped := wanes.capped
  opens reference batch opened := by
    refine ⟨batch, ⟨fewer reference batch opened.opened, opened.answers, ?_⟩, rfl, rfl, rfl, rfl⟩
    rw [← opened.target, foldChannel, foldChannel, features]
  ages := wanes.ages
  pending := wanes.pending
  counted _ := by rw [pages, pages, wanes.pages]

end Ledgers.Dwindles

/-- No page of a folded channel opens, and its generation and the cap are as before. -/
structure Ledgers.Alike (folded : String) (ledgers after : Ledgers) : Prop where
  opens : ∀ reference batch, after.OpensPage folded reference batch →
    ledgers.OpensPage folded reference batch
  aged : after.generation folded = ledgers.generation folded
  capped : after.history.afterPageCap = ledgers.history.afterPageCap

namespace Ledgers.Alike

variable {folded : String} {ledgers middle after : Ledgers}

theorem trans (first : ledgers.Alike folded middle) (second : middle.Alike folded after) :
    ledgers.Alike folded after where
  opens reference batch opened := first.opens reference batch (second.opens reference batch opened)
  aged := second.aged.trans first.aged
  capped := second.capped.trans first.capped

/-- A change of the requests that leaves the generations. -/
theorem of_same (batches : after.batches = ledgers.batches)
    (features : after.features = ledgers.features)
    (generation : after.history.generation = ledgers.history.generation)
    (capped : after.history.afterPageCap = ledgers.history.afterPageCap) :
    ledgers.Alike folded after where
  opens _ _ opened := by
    refine ⟨?_, opened.answers, ?_⟩
    · rw [← batches]
      exact opened.opened
    · rw [← opened.target, foldChannel, foldChannel, features]
  aged := by rw [Ledgers.generation, Ledgers.generation, generation]
  capped := capped

theorem arrives (alike : ledgers.Alike folded after) {reference : String}
    (arriving : after.Arrives folded reference) : ledgers.Arrives folded reference := by
  obtain ⟨batch, opened, current⟩ := arriving
  exact ⟨batch, alike.opens reference batch opened, current.trans alike.aged⟩

end Ledgers.Alike

namespace Ledgers.PagesCounted

variable {folded : String} {ledgers after : Ledgers} {record next : ChainRecord}

/-- Where the batches and the generations are as before, a new count of a chain must bound it. -/
theorem recount (counted : ledgers.PagesCounted folded record) (alike : ledgers.Alike folded after)
    (bounded : next.afters ≤ historyAfterPageCap ∧ next.latests ≤ 1)
    (recounted : after.Chains folded → next.afters ≤ after.pages folded ∧ next.latests = 0) :
    after.PagesCounted folded next := by
  refine ⟨fun reference batch opened => ?_, fun first second arriving other => ?_, recounted,
    bounded, alike.capped.trans counted.capped⟩
  · rw [alike.aged]
    exact counted.rooted reference batch (alike.opens reference batch opened)
  · exact counted.alone first second (alike.arrives arriving) (alike.arrives other)

/-- Where no page arrives and none is asked for, no chain is under way. -/
theorem idle (counted : ledgers.PagesCounted folded record) (alike : ledgers.Alike folded after)
    (bounded : next.afters ≤ historyAfterPageCap ∧ next.latests ≤ 1)
    (unasked : after.history.pendingKind[folded]? ≠ some .after)
    (none : ∀ reference, ¬ ledgers.Arrives folded reference) : after.PagesCounted folded next := by
  refine counted.recount alike bounded fun chaining => ?_
  rcases chaining with pending | ⟨reference, arriving⟩
  · exact absurd pending unasked
  · exact (none reference (alike.arrives arriving)).elim

end Ledgers.PagesCounted

/-! ## The moves -/

namespace Core

variable {folded : String} (core : Core)

theorem clearHistoryAfterAttempt_alike (key : String) :
    core.ledgers.Alike folded (core.clearHistoryAfterAttempt key).ledgers := .of_same rfl rfl rfl rfl

/-- An attempt that is cleared left no request. -/
theorem clearHistoryAfterAttempt_unasked (key : String) :
    (core.clearHistoryAfterAttempt key).history.pendingKind[key]? = none := by
  simp [clearHistoryAfterAttempt]

theorem clearHistoryAfterAttempt_wanes {key : String} (other : key ≠ folded) :
    core.history.Wanes folded (core.clearHistoryAfterAttempt key).history := by
  refine ⟨rfl, le_refl _, (HistoryLedger.Wanes.clear core.history key core.history.pending
    core.history.pendingBefore).pending, ?_⟩
  exact Std.TreeMap.getElem?_erase.trans (if_neg (by simpa using other))

theorem notePending_alike (target : String) (kind : HistoryRequestKind) :
    core.ledgers.Alike folded (core.notePending target kind).ledgers := .of_same rfl rfl rfl rfl

theorem notePending_wanes {target : String} {kind : HistoryRequestKind}
    (other : kind = .after → core.foldChannel target ≠ folded) :
    core.history.Wanes folded (core.notePending target kind).history :=
  .note core.history other core.history.asked core.history.pendingBefore _

theorem clearHistoryPending_wanes (channel : String) :
    core.history.Wanes folded (core.clearHistoryPending channel).history :=
  .clear core.history _ _ _

theorem failHistoryRequest_wanes (channels : List String) :
    core.history.Wanes folded (core.failHistoryRequest channels).history := by
  induction channels with
  | nil => exact .refl _ _
  | cons channel rest inductionHypothesis =>
      rw [failHistoryRequest]
      split
      · exact inductionHypothesis
      · have cleared : core.history.Wanes folded (core.clearHistoryPending channel).history :=
          core.clearHistoryPending_wanes channel
        simp only
        repeat' split
        all_goals exact ⟨cleared.capped, cleared.ages, cleared.pending, cleared.pages⟩

theorem requestHistoryLatest_wanes (target : String) :
    core.history.Wanes folded (core.requestHistoryLatest target).1.history := by
  have other : HistoryRequestKind.latest = .after → core.foldChannel target ≠ folded := by
    intro impossible
    cases impossible
  have noted := HistoryLedger.Wanes.note core.history other
    (core.history.asked.insert (core.foldChannel target)) core.history.pendingBefore
      (core.history.pending.insert (core.foldChannel target) (core.historyGeneration target))
  unfold requestHistoryLatest
  simp only
  split_ifs
  · exact .refl _ _
  · exact .refl _ _
  · split
    · rename_i sent result
      rw [history_of_sendCommand _ result]
      exact noted
    · rename_i refused result
      have cleared := noted.trans (.clear _ (core.foldChannel target)
        (refused.history.pending.erase (core.foldChannel target)) core.history.pendingBefore)
      simp only [history_of_sendCommand _ result]
      exact ⟨cleared.capped, cleared.ages, cleared.pending, cleared.pages⟩

variable [Platform]

theorem requestOlderHistory_wanes (target msgid : String) (timestamp : Option Instant) :
    core.history.Wanes folded (core.requestOlderHistory target msgid timestamp).1.history := by
  have other : HistoryRequestKind.before = .after → core.foldChannel target ≠ folded := by
    intro impossible
    cases impossible
  have noted := HistoryLedger.Wanes.note core.history other core.history.asked
    (core.history.pendingBefore.insert (core.foldChannel target))
      (core.history.pending.insert (core.foldChannel target) (core.historyGeneration target))
  unfold requestOlderHistory
  simp only
  split_ifs
  any_goals exact .refl _ _
  split
  · exact .refl _ _
  · split
    · rename_i sent result
      rw [history_of_sendCommand _ result]
      exact noted
    · rename_i refused result
      refine HistoryLedger.Wanes.trans ?_ (refused.clearHistoryPending_wanes target)
      rw [history_of_sendCommand _ result]
      exact noted

theorem requestHistoryTargets_wanes (start stop : Instant) :
    core.history.Wanes folded (core.requestHistoryTargets start stop).1.history := by
  unfold requestHistoryTargets
  simp only
  split_ifs
  · exact .refl _ _
  · exact .refl _ _
  · split
    · rename_i sent result
      simp only [history_of_sendCommand _ result]
      exact ⟨rfl, le_refl _, id, rfl⟩
    · rename_i refused result
      rw [history_of_sendCommand _ result]
      exact .refl _ _

end Core

/-! ## Dropped batches -/

section Moves

variable [Platform] {folded : String} {core changed : Core} {record : ChainRecord}

omit [Platform] in
/-- A page that is open after batches were dropped was open before. -/
theorem Core.opensPage_of_dropped {targets : List String} {reference : String} {batch : OpenBatch}
    (opened : (targets.foldl Core.dropHistoryBatches core).ledgers.OpensPage folded reference batch) :
    core.ledgers.OpensPage folded reference batch ∧
      ∀ target ∈ targets, core.rootsOf target reference batch = false := by
  induction targets generalizing core with
  | nil => exact ⟨opened, by simp⟩
  | cons target rest inductionHypothesis =>
      obtain ⟨later, others⟩ := inductionHypothesis opened
      obtain ⟨found, unrooted⟩ := core.dropHistoryBatches_opens later.opened
      have features : (core.dropHistoryBatches target).features = core.features :=
        congrArg Ledgers.features (core.dropHistoryBatches_agree target)
      refine ⟨⟨found, later.answers, ?_⟩, fun dropped listed => ?_⟩
      · rw [← later.target, Ledgers.foldChannel, Ledgers.foldChannel]
        exact congrArg (·.caseMapping.normalize batch.collected.target) features.symm
      · rcases List.mem_cons.mp listed with same | later
        · rw [same]
          exact unrooted
        · have kept := others dropped later
          simp only [Core.rootsOf, Core.foldChannel, features] at kept ⊢
          exact kept

/-- A move of the history opens no page. -/
theorem HistoryMove.opensPage {unsettled : Prop} (move : HistoryMove unsettled core changed)
    {reference : String} {batch : OpenBatch}
    (opened : changed.ledgers.OpensPage folded reference batch) :
    core.ledgers.OpensPage folded reference batch := by
  obtain ⟨middle, targets, before, after⟩ := move.drops
  have same {first second : Core} (agree : Agree .besidesRequests first second) :
      second.batches = first.batches ∧ second.features = first.features :=
    ⟨(congrArg Ledgers.batches agree :), (congrArg Ledgers.features agree :)⟩
  have left : (targets.foldl Core.dropHistoryBatches middle).ledgers.OpensPage folded reference
      batch := by
    obtain ⟨batches, features⟩ := same after
    refine ⟨?_, opened.answers, ?_⟩
    · rw [Core.ledgers_batches, ← batches]
      exact opened.opened
    · rw [← opened.target, Ledgers.foldChannel, Ledgers.foldChannel, Core.ledgers_features,
        Core.ledgers_features, features]
  obtain ⟨batches, features⟩ := same before
  obtain ⟨found, -⟩ := Core.opensPage_of_dropped left
  refine ⟨?_, found.answers, ?_⟩
  · rw [Core.ledgers_batches, ← batches]
    exact found.opened
  · rw [← found.target, Ledgers.foldChannel, Ledgers.foldChannel, Core.ledgers_features,
      Core.ledgers_features, features]

/-- A move of the history that starts no chain. -/
theorem HistoryMove.dwindles (move : HistoryMove False core changed)
    (counted : core.ledgers.PagesCounted folded record) :
    Ledgers.Dwindles folded core.ledgers changed.ledgers := by
  have fewer (reference : String) (batch : OpenBatch)
      (opened : changed.ledgers.OpensPage folded reference batch) :
      ∃ earlier, core.ledgers.OpensPage folded reference earlier ∧
        earlier.replayRoot = batch.replayRoot ∧ earlier.kind = batch.kind ∧
        earlier.collected.target = batch.collected.target ∧
        earlier.generation = batch.generation :=
    ⟨batch, move.opensPage opened, rfl, rfl, rfl, rfl⟩
  have features : changed.ledgers.features = core.ledgers.features :=
    (congrArg Ledgers.features move.agree :)
  have kept (wanes : core.history.Wanes folded changed.history) :
      Ledgers.Dwindles folded core.ledgers changed.ledgers := by
    refine ⟨features, wanes.capped, fewer, wanes.ages, wanes.pending, fun _ => ?_⟩
    have same : changed.ledgers.history.afterPages[folded]? =
      core.ledgers.history.afterPages[folded]? := wanes.pages
    rw [Ledgers.pages, Ledgers.pages, same]
  cases move with
  | bumps channel =>
      refine kept ⟨rfl, ?_, (core.clearHistoryPending_wanes channel).pending, rfl⟩
      change _ ≤ ((core.history.generation.insert (core.foldChannel channel)
        (core.historyGeneration channel + 1))[folded]?).getD 0
      rw [Std.TreeMap.getElem?_insert]
      split
      · rename_i same
        obtain rfl : core.foldChannel channel = folded := by simpa using same
        exact Nat.le_succ _
      · exact le_refl _
  | forgets channel =>
      have history : (core.forgetChannelHistory channel).history = _ :=
        (Core.dropHistoryBatches_agree _ channel).history_eq
      have cleared : core.history.Wanes folded (core.clearHistoryPending channel).history :=
        core.clearHistoryPending_wanes channel
      refine ⟨features, ?_, fewer, ?_, ?_, fun chaining => ?_⟩
      · rw [Core.ledgers_history, history]
        rfl
      · rw [Ledgers.generation, Ledgers.generation, Core.ledgers_history, Core.ledgers_history, history]
        exact le_refl _
      · rw [Core.ledgers_history, history]
        exact cleared.pending
      · by_cases same : core.foldChannel channel = folded
        · rcases chaining with pending | ⟨reference, batch, opened, -⟩
          · rw [Core.ledgers_history, history] at pending
            simp [Core.clearHistoryPending, same] at pending
          · have dropped : ([channel].foldl Core.dropHistoryBatches
                ({ core.clearHistoryPending channel with
                  history.asked := core.history.asked.erase (core.foldChannel channel)
                  history.exhausted := core.history.exhausted.erase (core.foldChannel channel)
                  history.afterPages := core.history.afterPages.erase (core.foldChannel channel)
                  history.afterCursor :=
                    core.history.afterCursor.erase (core.foldChannel channel) })).ledgers.OpensPage
                folded reference batch := opened
            obtain ⟨found, unrooted⟩ := Core.opensPage_of_dropped dropped
            have rooted := (counted.rooted reference batch
              ⟨found.opened, found.answers, found.target⟩).1
            have target : core.foldChannel batch.collected.target = folded := found.target
            have missed := unrooted channel (List.mem_singleton.mpr rfl)
            rw [Core.rootsOf, decide_eq_true rooted, Bool.true_and, decide_eq_false_iff_not] at missed
            exact absurd (target.trans same.symm) missed
        · rw [Ledgers.pages, Ledgers.pages, Core.ledgers_history, history]
          simp [Std.TreeMap.getElem?_erase, same]
  | abandons =>
      have history : core.abandonHistoryRequests.history =
          { core.history with
            pending := {}
            pendingBefore := {}
            pendingKind := {}
            targetsPending := false
            afterPages := {}
            afterCursor := {} } := by
        unfold Core.abandonHistoryRequests
        simp only
        generalize Std.TreeSet.toList _ = targets
        rw [(Agree.foldl Core.dropHistoryBatches_agree targets core).history_eq]
      refine ⟨features, ?_, fewer, ?_, ?_, fun chaining => ?_⟩
      · rw [Core.ledgers_history, history]
        rfl
      · rw [Ledgers.generation, Ledgers.generation, Core.ledgers_history, Core.ledgers_history, history]
      · rw [Core.ledgers_history, history]
        simp
      · rcases chaining with pending | ⟨reference, batch, opened, -⟩
        · rw [Core.ledgers_history, history] at pending
          simp at pending
        · have abandoning : HistoryMove False core core.abandonHistoryRequests := .abandons
          have before := abandoning.opensPage opened
          obtain ⟨own, -, named, -⟩ := counted.rooted reference batch before
          unfold Core.abandonHistoryRequests at opened
          simp only at opened
          have dropped : ((Std.TreeSet.toList (Std.TreeSet.ofList
              ((core.batches.openBatches.toList.filter fun entry =>
                entry.2.replayRoot = entry.1 && entry.2.collected.target ≠ "").map
                  fun entry => entry.2.collected.target) : StringSet)).foldl
                    Core.dropHistoryBatches core).ledgers.OpensPage folded reference batch :=
            ⟨opened.opened, opened.answers, opened.target⟩
          obtain ⟨-, unrooted⟩ := Core.opensPage_of_dropped dropped
          have missed := unrooted batch.collected.target ?_
          · rw [Core.rootsOf, decide_eq_true own, Bool.true_and, decide_eq_false_iff_not] at missed
            exact absurd rfl missed
          · rw [Std.TreeSet.mem_toList, Std.TreeSet.mem_ofList, List.contains_iff_mem, List.mem_map]
            refine ⟨(reference, batch), List.mem_filter.mpr ⟨?_, by simp [own, named]⟩, rfl⟩
            exact Std.TreeMap.mem_toList_iff_getElem?_eq_some.mpr before.opened
  | fails message =>
      apply kept
      unfold Core.handleChatHistoryFail
      split_ifs
      · exact .refl _ _
      · exact .refl _ _
      · exact ⟨rfl, le_refl _, id, rfl⟩
      · exact core.failHistoryRequest_wanes _
  | latest target => exact kept (core.requestHistoryLatest_wanes target)
  | after target after allowed => exact allowed.elim
  | older target msgid timestamp => exact kept (core.requestOlderHistory_wanes target msgid timestamp)
  | targets start stop => exact kept (core.requestHistoryTargets_wanes start stop)

omit [Platform] in
/-- A change that opens no batch, and asks for no page, keeps the count. -/
theorem HistoryLedger.Wanes.pagesCounted_of_fewer
    (wanes : core.history.Wanes folded changed.history)
    (fewer : ∀ (reference : String) (batch : OpenBatch),
      changed.batches.openBatches[reference]? = some batch →
        core.batches.openBatches[reference]? = some batch)
    (features : changed.features = core.features)
    (counted : core.ledgers.PagesCounted folded record) :
    changed.ledgers.PagesCounted folded record := by
  have dwindles : Ledgers.Dwindles folded core.ledgers changed.ledgers :=
    .of_wanes fewer features wanes
  exact dwindles.pagesCounted counted

omit [Platform] in
/-- A change of the requests alone keeps the count. -/
theorem HistoryLedger.Wanes.pagesCounted (wanes : core.history.Wanes folded changed.history)
    (batches : changed.batches = core.batches) (features : changed.features = core.features)
    (counted : core.ledgers.PagesCounted folded record) :
    changed.ledgers.PagesCounted folded record :=
  wanes.pagesCounted_of_fewer (fun _ _ found => batches ▸ found) features counted

/-- The pages of a target are counted under the server's case mapping. -/
def Ledgers.Counts (target : String) (record : ChainRecord) (ledgers : Ledgers) : Prop :=
  ledgers.PagesCounted (ledgers.foldChannel target) record

omit [Platform] in
theorem Ledgers.Dwindles.counts {target : String} {ledgers after : Ledgers}
    (change : Ledgers.Dwindles (ledgers.foldChannel target) ledgers after)
    (counts : ledgers.Counts target record) : after.Counts target record := by
  rw [Ledgers.Counts, Ledgers.foldChannel, change.features]
  exact change.pagesCounted counts

omit [Platform] in
/-- Where no page is open and none is asked for, no chain is under way. -/
theorem Ledgers.PagesCounted.of_idle {ledgers : Ledgers}
    (closed : ∀ reference batch, ¬ ledgers.OpensPage folded reference batch)
    (unasked : ledgers.history.pendingKind[folded]? ≠ some .after)
    (capped : ledgers.history.afterPageCap = historyAfterPageCap)
    (bounded : record.afters ≤ historyAfterPageCap ∧ record.latests ≤ 1) :
    ledgers.PagesCounted folded record := by
  refine ⟨fun reference batch opened => (closed reference batch opened).elim, ?_, ?_, bounded, capped⟩
  · rintro first second ⟨batch, opened, -⟩ other
    exact (closed first batch opened).elim
  · rintro (pending | ⟨reference, batch, opened, -⟩)
    · exact absurd pending unasked
    · exact (closed reference batch opened).elim

/-- A move that starts no chain and adopts no features keeps the count. -/
theorem LineMove.counts {target : String} (move : LineMove False core changed)
    (counts : core.ledgers.Counts target record) : changed.ledgers.Counts target record := by
  have kept (batches : changed.ledgers.batches = core.ledgers.batches)
      (history : changed.ledgers.history = core.ledgers.history)
      (features : changed.ledgers.features = core.ledgers.features) :
      changed.ledgers.Counts target record := by
    refine Ledgers.Dwindles.counts (.of_wanes (fun _ _ found => batches ▸ found) features ?_) counts
    rw [history]
    exact .refl _ _
  cases move with
  | quiet change =>
      rw [show changed.ledgers = core.ledgers from change]
      exact counts
  | adopts features allowed change => exact allowed.elim
  | history move => exact (move.dwindles counts).counts counts
  | marker move =>
      have agree := move.agree
      exact kept (congrArg Ledgers.batches agree :) (congrArg Ledgers.history agree :)
        (congrArg Ledgers.features agree :)
  | label move =>
      have agree := move.agree
      exact kept (congrArg Ledgers.batches agree :) (congrArg Ledgers.history agree :)
        (congrArg Ledgers.features agree :)

/-- Moves that start no chain and adopt no features keep the count. -/
theorem LedgerMove.counts {target : String} (move : LedgerMove False core changed)
    (counts : core.ledgers.Counts target record) : changed.ledgers.Counts target record := by
  cases move with
  | line move => exact move.counts counts
  | resets =>
      rw [core.resetForConnection_ledgers]
      refine .of_idle (fun reference batch opened => ?_) (by simp) counts.capped counts.bounded
      have found := opened.opened
      simp at found

end Moves

end Omairc.Session
