import Omairc.Session.ChainRequests

/-!
# The requests that closes send

The close of a page sends at most one request of its chain: the next AFTER, or at the cap the
LATEST that closes the chain. Every other BATCH line sends none.
-/

namespace Omairc.Session

open Omairc.Text Omairc.Irc

/-- The record of a chain after a close, which continues it if it is of the same target. -/
def ChainRecord.paged (record : ChainRecord) (mine : Bool) (afters latests : Nat) : ChainRecord :=
  if mine = true then
    { afters := record.afters + afters, latests := record.latests + latests }
  else record

/-- A close that sends nothing continues no chain. -/
theorem ChainRecord.paged_zero (record : ChainRecord) (mine : Bool) :
    record.paged mine 0 0 = record := by
  unfold paged
  split
  all_goals rfl

/-- A change whose requests the chain of a folded channel counts, as its own or not. -/
def Core.ContinuesChain (core changed : Core) (folded : String) (record : ChainRecord)
    (mine : Bool) : Prop :=
  ∃ afters latests, changed.requests "AFTER" = core.requests "AFTER" + afters ∧
    changed.requests "LATEST" = core.requests "LATEST" + latests ∧
    changed.ledgers.PagesCounted folded (record.paged mine afters latests)

namespace Core.ContinuesChain

variable {folded : String} {core middle changed : Core} {record : ChainRecord} {mine : Bool}

/-- A change that sends nothing. -/
theorem of_silent (silent : changed.sentFrames = core.sentFrames)
    (counted : changed.ledgers.PagesCounted folded record) :
    core.ContinuesChain changed folded record mine := by
  refine ⟨0, 0, by rw [requests, silent]; rfl, by rw [requests, silent]; rfl, ?_⟩
  rw [ChainRecord.paged_zero]
  exact counted

/-- A change after one that sends nothing. -/
theorem after (second : middle.ContinuesChain changed folded record mine)
    (silent : middle.sentFrames = core.sentFrames) :
    core.ContinuesChain changed folded record mine := by
  obtain ⟨afters, latests, afterCount, latestCount, counted⟩ := second
  rw [requests, requests, silent] at afterCount latestCount
  exact ⟨afters, latests, afterCount, latestCount, counted⟩

/-- A change that sends nothing and changes no request, after another. -/
theorem before (first : core.ContinuesChain middle folded record mine)
    (silent : changed.sentFrames = middle.sentFrames)
    (wanes : middle.history.Wanes folded changed.history)
    (fewer : ∀ (reference : String) (batch : OpenBatch),
      changed.batches.openBatches[reference]? = some batch →
        middle.batches.openBatches[reference]? = some batch)
    (features : changed.features = middle.features) :
    core.ContinuesChain changed folded record mine := by
  obtain ⟨afters, latests, afterCount, latestCount, counted⟩ := first
  refine ⟨afters, latests, ?_, ?_, wanes.pagesCounted_of_fewer fewer features counted⟩
  · rw [requests, silent]
    exact afterCount
  · rw [requests, silent]
    exact latestCount

end Core.ContinuesChain

section Closes

variable {folded : String} {core : Core} {record : ChainRecord}

variable [Platform]

/-- The LATEST that closes a chain is its only one. -/
theorem Core.sendHistoryLatestBound_counts (counted : core.ledgers.PagesCounted folded record)
    (target : String) (cursor : HistoryCursor)
    (idle : core.foldChannel target = folded → ¬ core.ledgers.Chains folded)
    (spent : core.foldChannel target = folded → record.latests = 0) :
    core.ContinuesChain (core.sendHistoryLatestBound target cursor).1 folded record
      (core.foldChannel target = folded) := by
  have noted : core.history.Wanes folded (core.notePending target .afterTail).history :=
    core.notePending_wanes fun impossible => nomatch impossible
  have alike : core.ledgers.Alike folded (core.notePending target .afterTail).ledgers :=
    core.notePending_alike target .afterTail
  have arrivesNot (mine : core.foldChannel target = folded) (reference : String) :
      ¬ core.ledgers.Arrives folded reference :=
    fun arriving => idle mine (.inr ⟨reference, arriving⟩)
  rcases core.sendHistoryPage_outcome "LATEST" .afterTail target cursor with
    ⟨sent, rest, result, written, same⟩ | ⟨selector, -, -, result⟩ | ⟨-, result⟩
  · have counts := requests_of_latest written
    rw [sendHistoryLatestBound, result]
    refine ⟨0, 1, counts.2, counts.1, ?_⟩
    rw [same]
    by_cases mine : core.foldChannel target = folded
    · rw [ChainRecord.paged, if_pos (decide_eq_true mine)]
      refine counted.idle alike ⟨counted.bounded.1, ?_⟩ (fun pending => ?_) (arrivesNot mine)
      · rw [spent mine]
      · exact idle mine (.inl (noted.pending pending))
    · rw [ChainRecord.paged, if_neg fun same => mine (of_decide_eq_true same)]
      exact noted.pagesCounted rfl rfl counted
  · rw [sendHistoryLatestBound, result]
    refine .of_silent rfl ?_
    by_cases mine : core.foldChannel target = folded
    · refine counted.idle (alike.trans (clearHistoryAfterAttempt_alike _ _)) counted.bounded
        (fun pending => ?_) (arrivesNot mine)
      rw [← mine, Core.ledgers_history, clearHistoryAfterAttempt_unasked] at pending
      cases pending
    · exact (noted.trans (clearHistoryAfterAttempt_wanes _ mine)).pagesCounted rfl rfl counted
  · rw [sendHistoryLatestBound, result]
    exact .of_silent rfl counted

/-- The session once a chain has counted its next page. -/
def Core.nextPage (core : Core) (target : String) (cursor : HistoryCursor) : Core :=
  let key := core.foldChannel target
  { core with
    history.afterPages := core.history.afterPages.insert key (core.ledgers.pages key + 1)
    history.afterCursor := core.history.afterCursor.insert key cursor }

/-- The next page of a chain is counted, while the count is below the cap. -/
theorem Core.sendHistoryAfter_counts (counted : core.ledgers.PagesCounted folded record)
    (target : String) (cursor : HistoryCursor)
    (idle : core.foldChannel target = folded → ¬ core.ledgers.Chains folded)
    (spent : core.foldChannel target = folded →
      record.afters ≤ core.ledgers.pages folded ∧ record.latests = 0)
    (room : core.ledgers.pages (core.foldChannel target) < historyAfterPageCap) :
    core.ContinuesChain ((core.nextPage target cursor).sendHistoryAfter target cursor).1 folded
      record (core.foldChannel target = folded) := by
  have alike : core.ledgers.Alike folded (core.nextPage target cursor).ledgers :=
    .of_same rfl rfl rfl rfl
  have apart (other : core.foldChannel target ≠ folded) :
      core.history.Wanes folded (core.nextPage target cursor).history :=
    ⟨rfl, le_refl _, id, Std.TreeMap.getElem?_insert.trans (if_neg (by simpa using other))⟩
  have paged := alike.trans (notePending_alike _ target .after)
  have arrivesNot (mine : core.foldChannel target = folded) (reference : String) :
      ¬ core.ledgers.Arrives folded reference :=
    fun arriving => idle mine (.inr ⟨reference, arriving⟩)
  rcases (core.nextPage target cursor).sendHistoryPage_outcome "AFTER" .after target cursor with
    ⟨sent, rest, result, written, same⟩ | ⟨selector, -, -, result⟩ | ⟨-, result⟩
  · have counts := requests_of_after written
    rw [sendHistoryAfter, result]
    refine ⟨1, 0, counts.1, counts.2, ?_⟩
    rw [same]
    by_cases mine : core.foldChannel target = folded
    · obtain ⟨afters, latests⟩ := spent mine
      subst mine
      rw [ChainRecord.paged, if_pos (decide_eq_true rfl)]
      refine counted.recount paged ⟨?_, ?_⟩ fun _ => ⟨?_, latests⟩
      · exact (Nat.succ_le_succ afters).trans room
      · exact latests.trans_le (Nat.zero_le 1)
      · have counts : ((core.nextPage target cursor).notePending target .after).ledgers.pages
            (core.foldChannel target) =
              max (core.ledgers.pages (core.foldChannel target) + 1) 1 := by
          simp [Ledgers.pages, nextPage, notePending]
        rw [counts]
        exact (Nat.succ_le_succ afters).trans (le_max_left _ _)
    · rw [ChainRecord.paged, if_neg fun same => mine (of_decide_eq_true same)]
      exact ((apart mine).trans (notePending_wanes _ fun _ => mine)).pagesCounted rfl rfl counted
  · rw [sendHistoryAfter, result]
    refine .of_silent rfl ?_
    by_cases mine : core.foldChannel target = folded
    · refine counted.idle (paged.trans (clearHistoryAfterAttempt_alike _ _)) counted.bounded
        (fun pending => ?_) (arrivesNot mine)
      have unasked := clearHistoryAfterAttempt_unasked
        ((core.nextPage target cursor).notePending target .after) (core.foldChannel target)
      rw [← mine] at pending
      cases pending.symm.trans unasked
    · exact (((apart mine).trans (notePending_wanes _ fun _ => mine)).trans
        (clearHistoryAfterAttempt_wanes _ mine)).pagesCounted rfl rfl counted
  · rw [sendHistoryAfter, result]
    refine .of_silent rfl ?_
    by_cases mine : core.foldChannel target = folded
    · exact counted.idle alike counted.bounded (fun pending => idle mine (.inl pending))
        (arrivesNot mine)
    · exact (apart mine).pagesCounted rfl rfl counted

/-- A page that arrived in full asks for at most one more request of its chain. -/
theorem Core.maybeChainHistoryAfter_counts (counted : core.ledgers.PagesCounted folded record)
    (target : String) (batch : HistoryBatch) (ended : Bool)
    (idle : core.foldChannel target = folded → ¬ core.ledgers.Chains folded)
    (spent : core.foldChannel target = folded →
      record.afters ≤ core.ledgers.pages folded ∧ record.latests = 0) :
    core.ContinuesChain (core.maybeChainHistoryAfter target batch ended) folded record
      (core.foldChannel target = folded) := by
  have still : core.ContinuesChain core folded record (core.foldChannel target = folded) :=
    .of_silent rfl counted
  have cap : (if core.history.afterPageCap = 0 then historyAfterPageCap
      else core.history.afterPageCap) = historyAfterPageCap := by
    rw [show core.history.afterPageCap = historyAfterPageCap from counted.capped, ite_self]
  unfold maybeChainHistoryAfter
  simp only
  rw [cap]
  split
  · exact still
  · split
    · exact still
    · split
      · exact core.sendHistoryLatestBound_counts counted target _ idle fun mine => (spent mine).2
      · rename_i below
        have next := core.sendHistoryAfter_counts counted target (cursorFromAfterPage batch.lines)
          idle spent (not_le.mp below)
        split
        · split
          · exact still
          · exact next
        · split
          · exact still
          · exact next

omit [Platform] in
/-- A label is finished without a request. -/
theorem Core.finishRequestLabel_sentFrames (core : Core) (label : String) :
    (core.finishRequestLabel label).sentFrames = core.sentFrames := by
  unfold finishRequestLabel
  split
  · rfl
  · rw [emit_sentFrames _ rfl, armLabelTimer]
    split
    all_goals rfl

omit [Platform] in
/-- A batch is removed without a request. -/
theorem Core.removedBatch_sentFrames (core : Core) (reference : String) (frame : OpenBatch) :
    (core.removedBatch reference frame).sentFrames = core.sentFrames := by
  have orphaned (children : List String) (core : Core) :
      (core.orphanBatches children).sentFrames = core.sentFrames := by
    unfold orphanBatches
    induction children generalizing core with
    | nil => rfl
    | cons child rest inductionHypothesis =>
        rw [List.foldl_cons, inductionHypothesis, sentFrames, ignoreBatch_events]
        rfl
  have labeled (core : Core) (label : String) :
      (core.finishBatchLabel label).sentFrames = core.sentFrames := by
    unfold finishBatchLabel
    split
    · rfl
    · exact core.finishRequestLabel_sentFrames label
  rw [removedBatch, labeled, withoutTree, orphaned]
  rfl

omit [Platform] in
/-- An answered request is cleared without another. -/
theorem Core.answeredBy_wanes (core : Core) (frame : OpenBatch) :
    core.history.Wanes folded (core.answeredBy frame).history := by
  have cleared : core.history.Wanes folded { core.history with
      pending := core.history.pending.erase (core.foldChannel frame.collected.target)
      pendingKind := core.history.pendingKind.erase (core.foldChannel frame.collected.target) } :=
    .clear core.history (core.foldChannel frame.collected.target) _ core.history.pendingBefore
  unfold answeredBy
  simp only
  split_ifs
  · exact ⟨rfl, le_refl _, cleared.pending, rfl⟩
  · exact cleared
  · exact .refl _ _

/-- A delivered batch sends at most one request, which continues the chain of its target. -/
theorem Core.deliverBatch_counts (counted : core.ledgers.PagesCounted folded record)
    (frame : OpenBatch)
    (page : core.foldChannel frame.collected.target = folded → core.isCurrent frame = true →
      frame.historyRequest = some .after → (∀ reference, ¬ core.ledgers.Arrives folded reference) ∧
        record.afters ≤ core.ledgers.pages folded ∧ record.latests = 0) :
    core.ContinuesChain (core.deliverBatch frame) folded record
      (core.foldChannel frame.collected.target = folded) := by
  have answered := core.answeredBy_agree frame
  have batches : (core.answeredBy frame).batches = core.batches :=
    (congrArg Ledgers.batches answered :)
  have features : (core.answeredBy frame).features = core.features :=
    (congrArg Ledgers.features answered :)
  have silent : (core.answeredBy frame).sentFrames = core.sentFrames := by
    unfold answeredBy
    simp only
    split_ifs
    all_goals rfl
  have wanes : core.history.Wanes folded (core.answeredBy frame).history := core.answeredBy_wanes frame
  have still : core.ContinuesChain (core.answeredBy frame) folded record
      (core.foldChannel frame.collected.target = folded) :=
    .of_silent silent (wanes.pagesCounted batches features counted)
  rw [deliverBatch_eq]
  split
  · exact still
  · have reported {inner : Core} (continues : core.ContinuesChain inner folded record
        (core.foldChannel frame.collected.target = folded)) (batch : HistoryBatch) :
        core.ContinuesChain (inner.emit (.historyBatchReceived core.networkId batch)) folded record
          (core.foldChannel frame.collected.target = folded) :=
      continues.before (emit_sentFrames inner rfl) (.refl _ _) (fun _ _ found => found) rfl
    apply reported
    split
    · rename_i chat
      let noted : Core :=
        { core.answeredBy frame with
          history.pendingBefore := (core.answeredBy frame).history.pendingBefore.erase
            (core.foldChannel frame.collected.target) }
      have same : noted.foldChannel frame.collected.target =
          core.foldChannel frame.collected.target := by
        simp only [noted, foldChannel, features]
      have cleared : core.history.Wanes folded noted.history :=
        ⟨wanes.capped, wanes.ages, wanes.pending, wanes.pages⟩
      have kept := cleared.pagesCounted batches features counted
      have alike : core.ledgers.Alike folded noted.ledgers := by
        refine .of_same batches features ?_ wanes.capped
        change (core.answeredBy frame).history.generation = core.history.generation
        unfold answeredBy
        simp only
        split_ifs
        all_goals rfl
      change core.ContinuesChain (if core.isCurrent frame && decide (frame.historyRequest =
        some .after) then noted.maybeChainHistoryAfter frame.collected.target (deliveredChat frame)
          frame.historyEnded else noted) folded record _
      split
      · rename_i continuing
        simp only [Bool.and_eq_true, decide_eq_true_eq] at continuing
        rw [← same]
        refine (noted.maybeChainHistoryAfter_counts kept _ _ _ (fun mine => ?_)
          fun mine => ?_).after silent
        · rw [same] at mine
          obtain ⟨none, -⟩ := page mine continuing.1 continuing.2
          rintro (pending | ⟨reference, arriving⟩)
          · refine absurd pending ?_
            change (core.answeredBy frame).history.pendingKind[folded]? ≠ some .after
            have answers : core.answersRequest frame = true := by
              simp [answersRequest, continuing.1, continuing.2, chat]
            rw [answeredBy]
            simp only
            rw [if_pos answers]
            split
            all_goals simp [mine]
          · exact none reference (alike.arrives arriving)
        · rw [same] at mine
          obtain ⟨-, spent⟩ := page mine continuing.1 continuing.2
          have pages : noted.ledgers.pages folded = core.ledgers.pages folded :=
            congrArg (fun count : Option Nat => max (count.getD 1) 1) cleared.pages
          rw [pages]
          exact spent
      · exact .of_silent silent kept
    · exact still

/-- A close sends at most one request, which continues the chain of the batch's target. -/
theorem Core.closeBatch_counts (counted : core.ledgers.PagesCounted folded record)
    (reference : String) :
    core.ContinuesChain (core.closeBatch reference) folded record
      ((core.batches.openBatches[reference]?).any fun batch =>
        core.foldChannel batch.collected.target = folded) := by
  rw [closeBatch_eq]
  split
  · have still : core.ContinuesChain core folded record
        ((core.batches.openBatches[reference]?).any fun batch =>
          core.foldChannel batch.collected.target = folded) := .of_silent rfl counted
    exact still.before rfl (.refl _ _) (fun _ _ found => found) rfl
  · split
    · rename_i closed
      exact .of_silent rfl counted
    · rename_i frame found
      rw [found, Option.any_some]
      obtain ⟨history, features, batches⟩ := core.removedBatch_frame reference frame
      have silent := core.removedBatch_sentFrames reference frame
      have opens (key : String) (batch : OpenBatch)
          (opened : (core.removedBatch reference frame).batches.openBatches[key]? = some batch) :
          core.batches.openBatches[key]? = some batch ∧ key ≠ reference := by
        rw [batches] at opened
        obtain ⟨before, other, -⟩ := (core.withoutTree_opens reference key batch).mp opened
        exact ⟨before, other⟩
      have unchanged : core.history.Wanes folded (core.removedBatch reference frame).history := by
        rw [history]
        exact .refl _ _
      have kept := unchanged.pagesCounted_of_fewer (fun key batch opened => (opens key batch opened).1)
        features counted
      have same : (core.removedBatch reference frame).foldChannel frame.collected.target =
          core.foldChannel frame.collected.target := by
        rw [foldChannel, foldChannel, features]
      split
      · have removed : core.ContinuesChain (core.removedBatch reference frame) folded record
            (core.foldChannel frame.collected.target = folded) := .of_silent silent kept
        exact removed.before (emit_sentFrames _ rfl) ⟨rfl, le_refl _, id, rfl⟩
          (fun _ _ opened => opened) rfl
      · split
        · rename_i root
          rw [← same]
          refine (deliverBatch_counts kept frame fun mine current answers => ?_).after silent
          rw [same] at mine
          have aged : (core.removedBatch reference frame).ledgers.generation folded =
              core.ledgers.generation folded := by
            rw [Ledgers.generation, Ledgers.generation, Core.ledgers_history, Core.ledgers_history,
              history]
          have arriving : core.ledgers.Arrives folded reference := by
            refine ⟨frame, ⟨found, answers, mine⟩, ?_⟩
            rw [isCurrent, decide_eq_true_eq] at current
            rw [current, ← aged, historyGeneration, same, mine]
            rfl
          refine ⟨fun other later => ?_, ?_⟩
          · obtain ⟨batch, opened, age⟩ := later
            obtain ⟨before, elsewhere⟩ := opens other batch opened.opened
            refine elsewhere (counted.alone other reference ⟨batch, ⟨before, opened.answers, ?_⟩,
              age.trans aged⟩ arriving)
            rw [← opened.target, Ledgers.foldChannel, Ledgers.foldChannel, Core.ledgers_features,
              Core.ledgers_features, features]
          · have pages : (core.removedBatch reference frame).ledgers.pages folded =
                core.ledgers.pages folded := by
              rw [Ledgers.pages, Ledgers.pages, Core.ledgers_history, Core.ledgers_history, history]
            rw [pages]
            exact counted.counted (.inr ⟨reference, arriving⟩)
        · exact .of_silent silent kept

/-! ## Opens -/

/-- A batch that opens as a page is a replay root, and answers the pending AFTER of its target. -/
theorem Core.openedFrame_page {message : IrcMessage} {reference : String}
    (page : (core.openedFrame message reference).historyRequest = some .after) :
    (core.openedFrame message reference).replayRoot = reference ∧
      (core.openedFrame message reference).kind = some .chat ∧
      (core.openedFrame message reference).collected.target = message.textParam 2 ∧
      (core.openedFrame message reference).generation =
        core.historyGeneration (message.textParam 2) ∧
      core.answersPendingHistory (message.textParam 2) = true ∧
      core.history.pendingKind[core.foldChannel (message.textParam 2)]? = some .after := by
  unfold openedFrame at page ⊢
  simp only at page ⊢
  generalize (if ((core.batches.openBatches[(message.tagText "batch").getD ""]?).map
    OpenBatch.replayRoot).getD "" ≠ "" then _ else _) = root at page ⊢
  by_cases own : root = reference
  · rw [if_pos own] at page ⊢
    simp only at page ⊢
    split at page
    · rename_i answers
      simp only [Bool.and_eq_true, decide_eq_true_eq] at answers
      exact ⟨own, answers.1, trivial, trivial, answers.2, page⟩
    · cases page
  · rw [if_neg own] at page
    split at page
    all_goals cases page

/-- Opening a batch asks for no page. -/
theorem Core.openBatch_wanes (core : Core) (message : IrcMessage) (reference : String) :
    core.history.Wanes folded (core.openBatch message reference).history := by
  have ignored := (core.ignoreBatch_agree reference).history_eq
  unfold openBatch
  simp only
  repeat' split
  any_goals exact .refl _ _
  any_goals
    rw [ignored]
    exact .refl _ _
  · rw [← ignored]
    exact clearHistoryPending_wanes _ _
  · rw [ignored]
    exact ⟨rfl, le_refl _, id, rfl⟩

/-- A batch that opens as a page is the only one that arrives for its target. -/
theorem Core.openBatch_counts (counted : core.ledgers.PagesCounted folded record)
    (message : IrcMessage) (reference : String) :
    (core.openBatch message reference).ledgers.PagesCounted folded record := by
  rcases core.openBatch_outcome message reference with fewer | ⟨closed, -, opens⟩
  · have wanes : core.history.Wanes folded (core.openBatch message reference).history :=
      core.openBatch_wanes message reference
    refine wanes.pagesCounted_of_fewer fewer ?_ counted
    have agree := core.openBatch_agree message reference
    exact (congrArg Ledgers.features agree :)
  · rw [opens]
    have opening : (core.openedFrame message reference).historyRequest = some .after →
        core.ledgers.foldChannel (core.openedFrame message reference).collected.target = folded →
        core.ledgers.Chains folded ∧ ∀ other, ¬ core.ledgers.Arrives folded other := by
      intro page target
      obtain ⟨-, -, named, -, answers, pending⟩ := core.openedFrame_page page
      rw [named] at target
      refine ⟨.inl (target ▸ pending), ?_⟩
      rintro other ⟨batch, opened, current⟩
      obtain ⟨own, chat, -⟩ := counted.rooted other batch opened
      simp only [answersPendingHistory, Bool.and_eq_true, Bool.not_eq_true'] at answers
      rw [hasOpenCurrentHistoryBatch, List.any_eq_false] at answers
      refine answers.2 (other, batch) ?_ ?_
      · exact Std.TreeMap.mem_toList_iff_getElem?_eq_some.mpr opened.opened
      · have sameTarget : core.foldChannel batch.collected.target =
            core.foldChannel (message.textParam 2) := opened.target.trans target.symm
        have sameAge : batch.generation = core.historyGeneration (message.textParam 2) := by
          rw [current, ← target]
          rfl
        simp [own, chat, sameTarget, sameAge]
    have opened {key : String} {batch : OpenBatch}
        (found : (core.batches.openBatches.insert reference
          (core.openedFrame message reference))[key]? = some batch) :
        key = reference ∧ batch = core.openedFrame message reference ∨
          key ≠ reference ∧ core.batches.openBatches[key]? = some batch := by
      rw [Std.TreeMap.getElem?_insert] at found
      split at found
      · rename_i same
        exact .inl ⟨(by simpa using same : reference = key).symm, (Option.some.inj found).symm⟩
      · rename_i other
        exact .inr ⟨fun same => other (by simp [same]), found⟩
    have arrives {key : String} (arriving : Ledgers.Arrives
        { core with
          batches.openBatches := core.batches.openBatches.insert reference
            (core.openedFrame message reference) }.ledgers folded key) :
        core.ledgers.Chains folded ∧
          (key = reference ∧ (∀ other, ¬ core.ledgers.Arrives folded other) ∨
            core.ledgers.Arrives folded key) := by
      obtain ⟨batch, ⟨found, answers, target⟩, current⟩ := arriving
      rcases opened found with ⟨rfl, rfl⟩ | ⟨-, before⟩
      · obtain ⟨chains, none⟩ := opening answers target
        exact ⟨chains, .inl ⟨rfl, none⟩⟩
      · have arriving : core.ledgers.Arrives folded key := ⟨batch, ⟨before, answers, target⟩, current⟩
        exact ⟨.inr ⟨key, arriving⟩, .inr arriving⟩
    refine ⟨?_, ?_, ?_, counted.bounded, counted.capped⟩
    · rintro key batch ⟨found, answers, target⟩
      rcases opened found with ⟨rfl, rfl⟩ | ⟨-, before⟩
      · obtain ⟨own, chat, named, aged, pending, -⟩ := core.openedFrame_page answers
        refine ⟨own, chat, ?_, ?_⟩
        · rw [named]
          rintro unnamed
          simp [answersPendingHistory, historyInflight, unnamed] at pending
        · rw [aged, ← target, named]
          exact le_refl _
      · exact counted.rooted key batch ⟨before, answers, target⟩
    · intro first second arriving other
      rcases (arrives arriving).2 with ⟨same, none⟩ | before
      · rcases (arrives other).2 with ⟨alike, -⟩ | earlier
        · exact same.trans alike.symm
        · exact (none second earlier).elim
      · rcases (arrives other).2 with ⟨-, none⟩ | earlier
        · exact (none first before).elim
        · exact counted.alone first second before earlier
    · rintro (pending | ⟨key, arriving⟩)
      · exact counted.counted (.inl pending)
      · exact counted.counted (arrives arriving).1

end Closes

end Omairc.Session
