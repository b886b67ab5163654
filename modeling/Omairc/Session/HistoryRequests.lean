import Omairc.Session.LedgerFrames
import Omairc.Session.LedgerRuns
import Omairc.Session.Reference
import Omairc.Text.Maps

/-!
# The ledger of history requests

A target is pending exactly when the kind of its request is recorded, at the current
generation of the target, and it is a pending BEFORE exactly when that kind is BEFORE. One
close breaks this: that of a current batch that answers nothing, while a BEFORE is pending.
-/

namespace Omairc.Session

open Omairc.Text Omairc.Irc

/-- The pending requests agree with their kinds and with the generations. -/
structure HistoryLedger.Consistent (history : HistoryLedger) : Prop where
  kinds : ∀ folded : String, history.pending.contains folded = history.pendingKind.contains folded
  before : ∀ folded : String, history.pendingBefore.contains folded =
    decide (history.pendingKind[folded]? = some .before)
  current : ∀ (folded : String) (generation : Nat), history.pending[folded]? = some generation →
    generation = (history.generation[folded]?).getD 0

namespace HistoryLedger.Consistent

variable {history : HistoryLedger}

/-- The ledger of a new connection. -/
theorem fresh (afterPageCap : Nat) : ({ afterPageCap } : HistoryLedger).Consistent :=
  ⟨by simp, by simp, by simp⟩

/-- A target without a request at its generation has none at all. -/
theorem absent (consistent : history.Consistent) {folded : String}
    (idle : history.pending[folded]? ≠ some ((history.generation[folded]?).getD 0)) :
    history.pending[folded]? = none ∧ history.pendingKind[folded]? = none ∧
      history.pendingBefore.contains folded = false := by
  have unasked : history.pending[folded]? = none := by
    cases found : history.pending[folded]? with
    | none => rfl
    | some generation =>
        refine absurd ?_ idle
        rw [found, consistent.current folded generation found]
  have unkinded : history.pendingKind[folded]? = none := by
    have same := consistent.kinds folded
    rw [Std.TreeMap.contains_eq_isSome_getElem?, unasked, Std.TreeMap.contains_eq_isSome_getElem?]
      at same
    cases kind : history.pendingKind[folded]? with
    | none => rfl
    | some kind =>
        rw [kind] at same
        cases same
  refine ⟨unasked, unkinded, ?_⟩
  rw [consistent.before folded, unkinded]
  rfl

/-- Clearing the request of a target. -/
theorem clear (consistent : history.Consistent) (folded : String) :
    { history with
      pending := history.pending.erase folded
      pendingBefore := history.pendingBefore.erase folded
      pendingKind := history.pendingKind.erase folded }.Consistent where
  kinds key := by
    simp only [Std.TreeMap.contains_erase, consistent.kinds key]
  before key := by
    simp only [Std.TreeSet.contains_erase, Std.TreeMap.getElem?_erase, consistent.before key, bne,
      compared_beq_eq]
    by_cases same : folded = key
    · simp [same]
    · simp [same]
  current key generation found := by
    simp only [Std.TreeMap.getElem?_erase] at found
    split at found
    · cases found
    · exact consistent.current key generation found

/-- Clearing a request that is no pending BEFORE needs no change of these. -/
theorem clear_of_not_before (consistent : history.Consistent) {folded : String}
    (other : history.pendingBefore.contains folded = false) :
    { history with
      pending := history.pending.erase folded
      pendingKind := history.pendingKind.erase folded }.Consistent where
  kinds := (consistent.clear folded).kinds
  before key := by
    have cleared := (consistent.clear folded).before key
    simp only [Std.TreeSet.contains_erase, bne, compared_beq_eq] at cleared
    by_cases same : folded = key
    · subst same
      simp [other]
    · simpa [same] using cleared
  current := (consistent.clear folded).current

/-- Recording a request of another kind than BEFORE, for a target that has none. -/
theorem note (consistent : history.Consistent) {folded : String}
    (idle : history.pending[folded]? ≠ some ((history.generation[folded]?).getD 0))
    {kind : HistoryRequestKind} (other : kind ≠ .before) :
    { history with
      pending := history.pending.insert folded ((history.generation[folded]?).getD 0)
      pendingKind := history.pendingKind.insert folded kind }.Consistent where
  kinds key := by
    simp only [Std.TreeMap.contains_insert, consistent.kinds key]
  before key := by
    obtain ⟨-, -, unasked⟩ := consistent.absent idle
    simp only [Std.TreeMap.getElem?_insert, consistent.before key]
    split
    · rename_i same
      obtain rfl : folded = key := by simpa using same
      rw [← consistent.before folded, unasked]
      simp [other]
    · rfl
  current key generation found := by
    simp only [Std.TreeMap.getElem?_insert] at found
    split at found
    · rename_i same
      obtain rfl : folded = key := by simpa using same
      exact (Option.some.inj found).symm
    · exact consistent.current key generation found

/-- Recording a BEFORE for a target that has no request. -/
theorem noteBefore (consistent : history.Consistent) (folded : String) :
    { history with
      pending := history.pending.insert folded ((history.generation[folded]?).getD 0)
      pendingBefore := history.pendingBefore.insert folded
      pendingKind := history.pendingKind.insert folded .before }.Consistent where
  kinds key := by
    simp only [Std.TreeMap.contains_insert, consistent.kinds key]
  before key := by
    simp only [Std.TreeSet.contains_insert, Std.TreeMap.getElem?_insert, consistent.before key,
      compared_beq_eq]
    by_cases same : folded = key
    · simp [same]
    · simp [same]
  current key generation found := by
    simp only [Std.TreeMap.getElem?_insert] at found
    split at found
    · rename_i same
      obtain rfl : folded = key := by simpa using same
      exact (Option.some.inj found).symm
    · exact consistent.current key generation found

end HistoryLedger.Consistent

namespace Core

variable (core : Core)

/-! ## The requests -/

/-- The ledger as a command leaves it, whether it is sent or refused. -/
theorem history_of_sendCommand {sent : Core} {taken : Bool} {command : Bytes} {label : String}
    (result : core.sendCommand command label = (sent, taken)) : sent.history = core.history :=
  congrArg Ledgers.history ((core.sendCommand_quiet command label).of_result result)

/-- A request in flight is one at the current generation of its target. -/
theorem historyInflight_eq_false {target : String} (named : target ≠ "")
    (idle : core.historyInflight target = false) :
    core.history.pending[core.foldChannel target]? ≠
      some ((core.history.generation[core.foldChannel target]?).getD 0) := by
  intro pending
  have busy : core.historyInflight target = true := by
    simp [historyInflight, named, historyGeneration, pending]
  rw [busy] at idle
  cases idle

variable {core}

theorem clearHistoryPending_consistent (consistent : core.history.Consistent) (channel : String) :
    (core.clearHistoryPending channel).history.Consistent :=
  ⟨(consistent.clear _).kinds, (consistent.clear _).before, (consistent.clear _).current⟩

theorem failHistoryRequest_consistent (consistent : core.history.Consistent)
    (channels : List String) : (core.failHistoryRequest channels).history.Consistent := by
  induction channels with
  | nil => exact consistent
  | cons channel rest inductionHypothesis =>
      rw [failHistoryRequest]
      split
      · exact inductionHypothesis
      · have cleared := clearHistoryPending_consistent consistent channel
        simp only
        repeat' split
        all_goals exact ⟨cleared.kinds, cleared.before, cleared.current⟩

variable [Platform]

theorem sendHistoryPage_consistent (consistent : core.history.Consistent) {subcommand : String}
    {kind : HistoryRequestKind} (other : kind ≠ .before) {target : String} {cursor : HistoryCursor}
    (idle : core.history.pending[core.foldChannel target]? ≠
      some ((core.history.generation[core.foldChannel target]?).getD 0)) :
    (core.sendHistoryPage subcommand kind target cursor).1.history.Consistent := by
  have noted := consistent.note idle other
  unfold sendHistoryPage
  split
  · exact consistent
  · simp only
    split
    · rename_i sent result
      rw [history_of_sendCommand _ result]
      exact ⟨noted.kinds, noted.before, noted.current⟩
    · rename_i refused result
      have cleared := noted.clear_of_not_before (consistent.absent idle).2.2
      have left : refused.history = _ := history_of_sendCommand _ result
      have consistent : (refused.clearHistoryAfterAttempt (core.foldChannel target)).history =
          { refused.history with
            pending := refused.history.pending.erase (core.foldChannel target)
            pendingKind := refused.history.pendingKind.erase (core.foldChannel target)
            asked := refused.history.asked.erase (core.foldChannel target)
            afterPages := refused.history.afterPages.erase (core.foldChannel target)
            afterCursor := refused.history.afterCursor.erase (core.foldChannel target) } := rfl
      rw [consistent, left]
      exact ⟨cleared.kinds, cleared.before, cleared.current⟩

end Core

section Moves

variable [Platform] {unsettled : Prop} {core changed : Core}

/-- A move of the history keeps its ledger consistent. -/
theorem HistoryMove.consistent (move : HistoryMove unsettled core changed)
    (consistent : core.history.Consistent) : changed.history.Consistent := by
  cases move with
  | bumps channel =>
      have cleared := consistent.clear (core.foldChannel channel)
      refine ⟨cleared.kinds, cleared.before, fun key generation found => ?_⟩
      have kept := cleared.current key generation found
      by_cases same : core.foldChannel channel = key
      · subst same
        simp [Core.bumpHistoryGeneration, Core.clearHistoryPending, Core.foldChannel] at found
      · rw [kept]
        simp [Core.bumpHistoryGeneration, Core.clearHistoryPending, Std.TreeMap.getElem?_insert,
          same]
  | forgets channel =>
      have cleared := consistent.clear (core.foldChannel channel)
      rw [Core.forgetChannelHistory, (Core.dropHistoryBatches_agree _ _).history_eq]
      exact ⟨cleared.kinds, cleared.before, cleared.current⟩
  | abandons => exact ⟨by simp [Core.abandonHistoryRequests], by simp [Core.abandonHistoryRequests],
      by simp [Core.abandonHistoryRequests]⟩
  | fails message =>
      unfold Core.handleChatHistoryFail
      split_ifs
      · exact consistent
      · exact consistent
      · exact ⟨consistent.kinds, consistent.before, consistent.current⟩
      · exact Core.failHistoryRequest_consistent consistent _
  | latest target =>
      unfold Core.requestHistoryLatest
      split
      · exact consistent
      · rename_i usable
        simp only
        split
        · exact consistent
        · rename_i fresh
          have named : target ≠ "" := by
            rintro rfl
            simp at usable
          simp only [Bool.or_eq_true, not_or, Bool.not_eq_true] at fresh
          have idle := core.historyInflight_eq_false named fresh.2
          have other : HistoryRequestKind.latest ≠ .before := by decide
          have noted := consistent.note idle other
          split
          · rename_i sent result
            rw [Core.history_of_sendCommand _ result]
            exact ⟨noted.kinds, noted.before, noted.current⟩
          · rename_i refused result
            have cleared := noted.clear_of_not_before (consistent.absent idle).2.2
            simp only [Core.history_of_sendCommand _ result]
            exact ⟨cleared.kinds, cleared.before, cleared.current⟩
  | after target after =>
      unfold Core.requestHistoryAfter
      split_ifs with usable busy
      · exact consistent
      · exact consistent
      · have named : target ≠ "" := by
          rintro rfl
          simp at usable
        have idle := core.historyInflight_eq_false named (by simpa using busy)
        have asked : HistoryLedger.Consistent
            { core.history with
              asked := core.history.asked.insert (core.foldChannel target)
              afterPages := core.history.afterPages.insert (core.foldChannel target) 1
              afterCursor :=
                core.history.afterCursor.insert (core.foldChannel target) { time := some after } } :=
          ⟨consistent.kinds, consistent.before, consistent.current⟩
        exact Core.sendHistoryPage_consistent asked (by decide) idle
  | older target msgid timestamp =>
      unfold Core.requestOlderHistory
      simp only
      split
      · exact consistent
      · split
        · exact consistent
        · split
          · exact consistent
          · split
            · exact consistent
            · have noted := consistent.noteBefore (core.foldChannel target)
              split
              · rename_i sent result
                rw [Core.history_of_sendCommand _ result]
                exact ⟨noted.kinds, noted.before, noted.current⟩
              · rename_i refused result
                refine Core.clearHistoryPending_consistent ?_ target
                rw [Core.history_of_sendCommand _ result]
                exact ⟨noted.kinds, noted.before, noted.current⟩
  | targets start stop =>
      unfold Core.requestHistoryTargets
      split_ifs
      · exact consistent
      · exact consistent
      · simp only
        split
        · rename_i sent result
          simp only [Core.history_of_sendCommand _ result]
          exact ⟨consistent.kinds, consistent.before, consistent.current⟩
        · rename_i refused result
          rw [Core.history_of_sendCommand _ result]
          exact consistent

/-! ## Batches -/

/-- Closing this batch would erase a pending BEFORE that stays pending: a chat batch of the
target's current generation that answers no request. -/
def Core.erasesBefore (core : Core) (reference : String) : Bool :=
  !core.batches.ignored.contains reference &&
    (core.batches.openBatches[reference]?).any fun frame =>
      frame.replayRoot = reference && frame.kind = some .chat && frame.collected.target ≠ "" &&
        core.isCurrent frame && frame.historyRequest = none &&
          core.history.pendingBefore.contains (core.foldChannel frame.collected.target)

namespace Core

theorem openBatch_consistent (consistent : core.history.Consistent) (message : IrcMessage)
    (reference : String) : (core.openBatch message reference).history.Consistent := by
  have ignored : (core.ignoreBatch reference).history.Consistent := by
    rw [(core.ignoreBatch_agree reference).history_eq]
    exact consistent
  unfold openBatch
  simp only
  repeat' split
  any_goals exact consistent
  any_goals exact ignored
  · exact clearHistoryPending_consistent ignored _
  · exact ⟨ignored.kinds, ignored.before, ignored.current⟩

theorem maybeChainHistoryAfter_consistent (consistent : core.history.Consistent) {target : String}
    {batch : HistoryBatch} {ended : Bool}
    (unasked : core.history.pending[core.foldChannel target]? = none) :
    (core.maybeChainHistoryAfter target batch ended).history.Consistent := by
  have idle : core.history.pending[core.foldChannel target]? ≠
      some ((core.history.generation[core.foldChannel target]?).getD 0) := by
    rw [unasked]
    exact Option.some_ne_none _ |>.symm
  have tail : HistoryRequestKind.afterTail ≠ .before := by decide
  have page : HistoryRequestKind.after ≠ .before := by decide
  have paged (asked : HistoryLedger) (next : HistoryCursor)
      (same : asked.generation = core.history.generation ∧ asked.pending = core.history.pending ∧
        asked.pendingBefore = core.history.pendingBefore ∧
        asked.pendingKind = core.history.pendingKind) :
      (({ core with history := asked } : Core).sendHistoryAfter target next).1.history.Consistent := by
    obtain ⟨generation, pending, before, kind⟩ := same
    refine sendHistoryPage_consistent ⟨?_, ?_, ?_⟩ page ?_
    · rw [pending, kind]
      exact consistent.kinds
    · rw [before, kind]
      exact consistent.before
    · rw [pending, generation]
      exact consistent.current
    · change asked.pending[core.foldChannel target]? ≠
        some ((asked.generation[core.foldChannel target]?).getD 0)
      rw [pending, generation]
      exact idle
  unfold maybeChainHistoryAfter
  simp only
  split_ifs
  any_goals exact consistent
  any_goals exact sendHistoryPage_consistent consistent tail idle
  all_goals exact paged _ _ ⟨rfl, rfl, rfl, rfl⟩

/-- A delivered batch answers its request, and answers none when it is not current. -/
theorem deliverBatch_consistent (consistent : core.history.Consistent) {frame : OpenBatch}
    (kept : ¬ (frame.kind = some .chat ∧ core.isCurrent frame = true ∧ frame.historyRequest = none ∧
      core.history.pendingBefore.contains (core.foldChannel frame.collected.target) = true)) :
    (core.deliverBatch frame).history.Consistent := by
  rw [deliverBatch_eq]
  by_cases answers : core.answersRequest frame = true
  · have cleared := consistent.clear (core.foldChannel frame.collected.target)
    have answered := answers
    simp only [answersRequest, Bool.and_eq_true, decide_eq_true_eq] at answered
    obtain ⟨⟨current, chat⟩, requested⟩ := answered
    rw [if_neg (by simp [current]), if_pos chat]
    have noted : HistoryLedger.Consistent
        { (core.answeredBy frame).history with
          pendingBefore := (core.answeredBy frame).history.pendingBefore.erase
            (core.foldChannel frame.collected.target) } := by
      unfold answeredBy
      simp only [if_pos answers]
      split
      all_goals exact ⟨cleared.kinds, cleared.before, cleared.current⟩
    have unasked : (core.answeredBy frame).history.pending[
        core.foldChannel frame.collected.target]? = none := by
      unfold answeredBy
      simp only [if_pos answers]
      split
      all_goals simp
    have features : (core.answeredBy frame).features = core.features := by
      unfold answeredBy
      simp only [if_pos answers]
      split
      all_goals rfl
    change (core.continuedBy frame).history.Consistent
    unfold continuedBy
    simp only
    split
    · refine maybeChainHistoryAfter_consistent noted ?_
      simp only [foldChannel, features]
      exact unasked
    · exact noted
  · have untouched : core.answeredBy frame = core := by rw [answeredBy, if_neg answers]
    split
    · rw [untouched]
      exact consistent
    · rename_i delivered
      change (if frame.kind = some .chat then core.continuedBy frame
        else core.answeredBy frame).history.Consistent
      split
      · rename_i chat
        have current : core.isCurrent frame = true := by
          simpa [chat] using delivered
        have unrequested : frame.historyRequest = none := by
          simpa [answersRequest, current, chat] using answers
        have other : core.history.pendingBefore.contains
            (core.foldChannel frame.collected.target) = false := by
          by_contra pending
          exact kept ⟨chat, current, unrequested, by simpa using pending⟩
        unfold continuedBy
        simp only [untouched, unrequested]
        rw [if_neg (by simp)]
        refine ⟨consistent.kinds, fun key => ?_, consistent.current⟩
        have before := consistent.before key
        simp only [Std.TreeSet.contains_erase, bne, compared_beq_eq]
        by_cases same : core.foldChannel frame.collected.target = key
        · subst same
          rw [← before, other]
          simp
        · simpa [same] using before
      · rw [untouched]
        exact consistent

/-- Closing a batch keeps the ledger, unless it erases a pending BEFORE. -/
theorem closeBatch_consistent (consistent : core.history.Consistent) {reference : String}
    (kept : core.erasesBefore reference = false) :
    (core.closeBatch reference).history.Consistent := by
  rw [closeBatch_eq]
  split
  · exact consistent
  · rename_i unignored
    split
    · exact consistent
    · rename_i frame found
      obtain ⟨history, features, -⟩ := core.removedBatch_frame reference frame
      have removed : (core.removedBatch reference frame).history.Consistent := by
        rw [history]
        exact consistent
      split
      · exact ⟨removed.kinds, removed.before, removed.current⟩
      · split
        · rename_i root
          refine deliverBatch_consistent removed ?_
          rintro ⟨chat, current, unrequested, pending⟩
          have same : core.isCurrent frame = true := by
            rw [isCurrent, decide_eq_true_eq] at current ⊢
            rw [current, historyGeneration, historyGeneration, history, foldChannel, foldChannel,
              features]
          rw [history, foldChannel, features] at pending
          have erases : core.erasesBefore reference = true := by
            rw [erasesBefore, found, Option.any_some]
            simp only [Bool.and_eq_true, decide_eq_true_eq, Bool.not_eq_true']
            exact ⟨eq_false_of_ne_true unignored,
              ⟨⟨⟨⟨root.1, chat⟩, root.2⟩, same⟩, unrequested⟩, pending⟩
          rw [kept] at erases
          cases erases
        · exact removed

end Core

/-- Every move of a line keeps the requests consistent. -/
theorem LineMove.consistent (move : LineMove unsettled core changed)
    (consistent : core.history.Consistent) : changed.history.Consistent := by
  have kept (same : changed.history = core.history) : changed.history.Consistent := by
    rw [same]
    exact consistent
  cases move with
  | quiet change => exact kept (congrArg Ledgers.history change)
  | adopts features allowed change => exact kept (congrArg Ledgers.history change)
  | history move => exact move.consistent consistent
  | marker move =>
      have agree := move.agree
      simp only [Agree, Ledgers.besidesMarkers, Ledgers.mk.injEq] at agree
      exact kept agree.2.1
  | label move =>
      have agree := move.agree
      simp only [Agree, Ledgers.besidesLabels, Ledgers.mk.injEq] at agree
      exact kept agree.2.1

/-- Every move of the ledgers keeps the requests consistent. -/
theorem LedgerMove.consistent (move : LedgerMove unsettled core changed)
    (consistent : core.history.Consistent) : changed.history.Consistent := by
  cases move with
  | line move => exact move.consistent consistent
  | resets =>
      rw [show core.resetForConnection.history = { afterPageCap := core.history.afterPageCap } from
        congrArg Ledgers.history core.resetForConnection_ledgers]
      exact .fresh _

end Moves

section Runs

namespace System

variable {system : System} {config : SessionConfig}

/-- A step closes a batch that erases a pending BEFORE. -/
def erasesBefore (system : System) (action : Action) : Bool :=
  match system.batchLine action with
  | none => false
  | some message =>
      match batchReference (message.textParam 0) with
      | some ('-', reference) => system.core.erasesBefore reference
      | _ => false

variable [Platform]

end System

end Runs

section Reference

/-- The runs are on the reference platform. -/
local instance historyPlatform : Platform := reference

/-- A registered session that may ask for history. -/
def historyActions : List Action :=
  connectActions ++ readActions [":s CAP * LS :batch draft/chathistory"] ++ performActions 3 ++
    readActions [":s CAP * ACK :batch draft/chathistory", ":s 001 nick :hi"] ++ performActions 1

namespace System

end System

end Reference

end Omairc.Session
