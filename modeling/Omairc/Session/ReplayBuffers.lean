import Mathlib.Data.List.DropRight
import Omairc.Semantics.Monitor
import Omairc.Session.BatchTrees

/-!
# The lines a replay delivers

The buffer of a replay root is the newest part of the lines that were tagged into its tree
since it opened. Closing the root delivers that part, once and in order, or nothing when its
request was superseded; and nothing else delivers.
-/

namespace Omairc.Session

open Omairc.Text Omairc.Irc

/-- The newest of some items, with one item more. -/
theorem newest_concat {Item : Type} (keep : Nat) (items : List Item) (item : Item) :
    (if (items.rtake (keep + 1)).length ≥ keep + 1 then (items.rtake (keep + 1)).tail
      else items.rtake (keep + 1)) ++ [item] = (items ++ [item]).rtake (keep + 1) := by
  rw [List.rtake_concat_succ]
  congr 1
  simp only [List.rtake, List.length_drop]
  split
  · rw [List.tail_drop]
    congr 1
    omega
  · congr 1
    omega

/-- A buffer that holds the newest of some lines holds the newest of one line more. -/
theorem bufferLine_newest (lines : List IrcMessage) (message : IrcMessage) :
    bufferLine (lines.rtake historyBufferCeiling) message =
      (lines ++ [message]).rtake historyBufferCeiling := newest_concat 255 lines message

section Runs

variable [Platform] {unsettled : Prop} {core changed : Core}

/-- What closing a replay root delivers of its lines: the rows of a TARGETS batch; and for a
named target the lines, unless the request of a chat batch was superseded. -/
def Core.deliveries (core : Core) (frame : OpenBatch) (lines : List IrcMessage) :
    List HistoryBatch :=
  if frame.kind = some .targets then
    [{ kind := some .targets
       historyEnded := frame.historyEnded
       targets := historyTargetsFrom lines }]
  else if frame.collected.target = "" then []
  else if frame.kind ≠ some .bouncerPlayback ∧ core.isCurrent frame = false then []
  else [{ core.reportedBatch frame with lines }]

/-- What closing a reference delivers, when its lines are these: nothing, unless it is an open
root. -/
def Core.closeDeliveries (core : Core) (reference : String) (lines : List IrcMessage) :
    List HistoryBatch :=
  match core.batches.openBatches[reference]? with
  | none => []
  | some frame => if frame.replayRoot = reference then core.deliveries frame lines else []

namespace Core

variable (core)

omit [Platform] in
theorem emitBatch_delivered (networkId : String) (batch : HistoryBatch) :
    (core.emit (.historyBatchReceived networkId batch)).ledgers.deliveredBatches =
      core.ledgers.deliveredBatches ++ [batch] := by
  simp [ledgers, emit, SessionEvent.deliveredBatch]

omit [Platform] in
theorem reportedBatch_lines (frame : OpenBatch) :
    (core.reportedBatch frame).lines = frame.collected.lines := by
  unfold reportedBatch deliveredChat
  split
  all_goals rfl

/-- Delivering a root adds its deliveries to those of before. -/
theorem deliverBatch_delivered {frame : OpenBatch} (named : frame.collected.target ≠ "")
    (other : frame.kind ≠ some .targets) :
    (core.deliverBatch frame).ledgers.deliveredBatches =
      core.ledgers.deliveredBatches ++ core.deliveries frame frame.collected.lines := by
  have answered : (core.answeredBy frame).ledgers.deliveredBatches =
      core.ledgers.deliveredBatches := by
    have agree := core.answeredBy_agree frame
    exact (congrArg Ledgers.deliveredBatches agree :)
  have continued : (core.continuedBy frame).ledgers.deliveredBatches =
      core.ledgers.deliveredBatches := by
    have agree := core.continuedBy_agree frame
    exact (congrArg Ledgers.deliveredBatches agree :)
  rw [deliverBatch_eq, deliveries, if_neg other, if_neg named]
  by_cases superseded : frame.kind ≠ some .bouncerPlayback ∧ core.isCurrent frame = false
  · rw [if_pos superseded, if_pos superseded, answered, List.append_nil]
  · rw [if_neg superseded, if_neg superseded, emitBatch_delivered, ← core.reportedBatch_lines frame]
    split
    · rw [continued]
    · rw [answered]

omit [Platform] in
theorem removedBatch_delivered (reference : String) (frame : OpenBatch) :
    (core.removedBatch reference frame).ledgers.deliveredBatches =
      core.ledgers.deliveredBatches := by
  have tended := core.withoutTree_agree reference
  have finished := (core.withoutTree reference).finishBatchLabel_agree frame.requestLabel
  have before := congrArg Ledgers.deliveredBatches tended
  have after := congrArg Ledgers.deliveredBatches finished
  exact after.trans before

/-- Removing a batch leaves what its delivery reads. -/
theorem removedBatch_deliveries (reference : String) (frame : OpenBatch)
    (lines : List IrcMessage) :
    (core.removedBatch reference frame).deliveries frame lines = core.deliveries frame lines := by
  obtain ⟨history, features, -⟩ := core.removedBatch_frame reference frame
  have current : (core.removedBatch reference frame).isCurrent frame = core.isCurrent frame := by
    rw [isCurrent, isCurrent, historyGeneration, historyGeneration, history, foldChannel,
      foldChannel, features]
  simp only [deliveries, reportedBatch, current]

/-- Closing a batch delivers what its root collected, and nothing if it is no open root. -/
theorem closeBatch_delivered (forest : core.batches.IsForest) (reference : String)
    {lines : List IrcMessage}
    (held : ∀ frame, core.batches.openBatches[reference]? = some frame →
      frame.replayRoot = reference → frame.collected.lines = lines) :
    (core.closeBatch reference).ledgers.deliveredBatches =
      core.ledgers.deliveredBatches ++ core.closeDeliveries reference lines := by
  rw [closeBatch_eq, closeDeliveries]
  by_cases ignored : core.batches.ignored.contains reference = true
  · rw [if_pos ignored, forest.apart reference ignored, List.append_nil]
    rfl
  · rw [if_neg ignored]
    cases opened : core.batches.openBatches[reference]? with
    | none => rw [List.append_nil]
    | some frame =>
        simp only
        by_cases root : frame.replayRoot = reference
        · rw [if_pos root, ← held frame opened root]
          by_cases targets : frame.kind = some .targets
          · rw [if_pos ⟨root, targets⟩, emitBatch_delivered, deliveries, if_pos targets]
            congr 1
            exact core.removedBatch_delivered reference frame
          · rw [if_neg (fun both => targets both.2)]
            by_cases named : frame.collected.target = ""
            · rw [if_neg (fun both => both.2 named), removedBatch_delivered, deliveries,
                if_neg targets, if_pos named, List.append_nil]
            · rw [if_pos ⟨root, named⟩, deliverBatch_delivered _ named targets,
                removedBatch_delivered, removedBatch_deliveries]
        · rw [if_neg (fun both => root both.1), if_neg (fun both => root both.1), if_neg root,
            removedBatch_delivered, List.append_nil]

omit [Platform] in
theorem ignoreBatch_events (reference : String) :
    (core.ignoreBatch reference).events = core.events := by
  unfold ignoreBatch
  simp only
  split_ifs
  all_goals rfl

/-- Opening a batch reports nothing. -/
theorem openBatch_events (message : IrcMessage) (reference : String) :
    (core.openBatch message reference).events = core.events := by
  have ignored := core.ignoreBatch_events reference
  unfold openBatch
  simp only
  repeat' split
  any_goals rfl
  all_goals exact ignored

end Core

/-- A move of a line delivers no batch. -/
theorem LineMove.delivered (move : LineMove unsettled core changed) :
    changed.ledgers.deliveredBatches = core.ledgers.deliveredBatches := by
  have dropped (targets : List String) (core : Core) :
      (targets.foldl Core.dropHistoryBatches core).ledgers.deliveredBatches =
        core.ledgers.deliveredBatches := by
    have agree : Agree .besidesBatches core (targets.foldl Core.dropHistoryBatches core) :=
      .foldl Core.dropHistoryBatches_agree targets core
    exact (congrArg Ledgers.deliveredBatches agree :)
  cases move with
  | quiet change => exact congrArg Ledgers.deliveredBatches change
  | adopts features allowed change => rw [change]
  | history move =>
      obtain ⟨middle, targets, before, after⟩ := move.drops
      have first := congrArg Ledgers.deliveredBatches before
      have last := congrArg Ledgers.deliveredBatches after
      exact last.trans ((dropped targets middle).trans first)
  | marker move =>
      have agree := move.agree
      exact (congrArg Ledgers.deliveredBatches agree :)
  | label move =>
      have agree := move.agree
      exact (congrArg Ledgers.deliveredBatches agree :)

/-- Moves deliver no batch. -/
theorem LedgerMoves.delivered (moves : LedgerMoves unsettled core changed) :
    changed.ledgers.deliveredBatches = core.ledgers.deliveredBatches := by
  induction moves with
  | refl => rfl
  | @tail middle last prior move inductionHypothesis =>
      refine Eq.trans ?_ inductionHypothesis
      cases move with
      | line move => exact move.delivered
      | resets =>
          rw [middle.resetForConnection_ledgers]
          exact LineMove.delivered (.label .clears : LineMove True _ _)

/-! ## What opens -/

namespace Core

variable (core)

/-- A batch opens without lines. -/
theorem openedFrame_lines (message : IrcMessage) (reference : String) :
    (core.openedFrame message reference).collected.lines = [] := by
  unfold openedFrame
  simp only
  repeat' split
  all_goals rfl

/-- What is open after an open was open before, or is new and without lines. -/
theorem openBatch_opens {message : IrcMessage} {reference key : String} {frame : OpenBatch}
    (found : (core.openBatch message reference).batches.openBatches[key]? = some frame) :
    core.batches.openBatches[key]? = some frame ∨
      core.batches.openBatches[key]? = none ∧ frame.collected.lines = [] := by
  rcases core.openBatch_outcome message reference with before | ⟨closed, -, inserted⟩
  · exact .inl (before key frame found)
  · simp only [inserted, Std.TreeMap.getElem?_insert] at found
    split at found
    · rename_i same
      obtain rfl : reference = key := by simpa using same
      obtain rfl := Option.some.inj found
      exact .inr ⟨closed, core.openedFrame_lines message reference⟩
    · exact .inl found

end Core

/-- What is open after an event that collects nothing was open before, or is new and without
lines. -/
theorem LedgerEvent.opens {event : LedgerEvent} (other : ∀ message, event ≠ .collects message)
    {key : String} {frame : OpenBatch}
    (found : (event.apply core).batches.openBatches[key]? = some frame) :
    core.batches.openBatches[key]? = some frame ∨
      core.batches.openBatches[key]? = none ∧ frame.collected.lines = [] := by
  cases event with
  | batch message =>
      rw [LedgerEvent.apply, Core.handleBatch] at found
      split at found
      · exact .inl found
      · exact .inl (Core.closeBatch_opens (core.reportInbound message) found)
      · exact Core.openBatch_opens (core.reportInbound message) found
  | collects message => exact absurd rfl (other message)
  | begins =>
      have same : core.beginLabeledRequest.1.batches = core.batches :=
        (congrArg Ledgers.batches core.beginLabeledRequest_agree :)
      rw [LedgerEvent.apply, same] at found
      exact .inl found
  | drops label =>
      have same : (core.dropRequestLabel label).batches = core.batches :=
        (congrArg Ledgers.batches (core.dropRequestLabel_agree label) :)
      rw [LedgerEvent.apply, same] at found
      exact .inl found

/-! ## The streams of the roots -/

namespace System

omit [Platform] in
/-- The line that a step takes into the tree of a root. -/
def replayedInto (system : System) (action : Action) (reference : String) : Option IrcMessage :=
  (system.dispatchedLine action).filter fun message =>
    message.command ≠ "BATCH" &&
      (system.core.batches.openBatches[(message.tagText "batch").getD ""]?).any fun frame =>
        frame.replayRoot = reference

end System

/-- Record, for every open reference, the lines that went into its tree since it opened. -/
def replayMonitor : Semantics.Monitor System (Readings × Action) (String → List IrcMessage) where
  initially := fun _ => []
  watch record system step _ := fun reference =>
    if system.core.batches.openBatches.contains reference then
      record reference ++ (system.replayedInto step.2 reference).toList
    else []

/-- Every open root holds the newest of its lines. -/
def BatchLedger.HoldsNewest (batches : BatchLedger) (record : String → List IrcMessage) : Prop :=
  ∀ (reference : String) (frame : OpenBatch), batches.openBatches[reference]? = some frame →
    frame.replayRoot = reference →
      frame.collected.lines = (record reference).rtake historyBufferCeiling

omit [Platform] in
/-- Collecting a line keeps the newest lines of every open root, when the stream of each is
continued by the line if its tree took it. -/
theorem BatchLedger.HoldsNewest.collects {batches after : BatchLedger} {message : IrcMessage}
    {record streams : String → List IrcMessage} (holds : batches.HoldsNewest record)
    (forest : batches.IsForest) (collects : batches.Collects message after)
    (continued : ∀ key : String, batches.openBatches.contains key = true → streams key =
      record key ++ if (batches.openBatches[(message.tagText "batch").getD ""]?).any fun frame =>
        frame.replayRoot = key then [message] else []) : after.HoldsNewest streams := by
  have held {key : String} {frame : OpenBatch} (found : batches.openBatches[key]? = some frame) :
      batches.openBatches.contains key = true := by
    rw [Std.TreeMap.contains_eq_isSome_getElem?, found, Option.isSome_some]
  intro key frame found root
  cases collects with
  | drops ignored =>
      rw [continued key (held found), forest.apart _ ignored, Option.any_none,
        if_neg (by decide), List.append_nil]
      exact holds key frame found root
  | @buffers inside top opened above =>
      have named : inside.replayRoot ≠ "" := forest.reference_ne_empty above
      obtain ⟨same, present, own, -⟩ := forest.rooted _ inside opened named
      rw [above] at present
      obtain rfl := Option.some.inj present
      simp only [Std.TreeMap.getElem?_insert] at found
      split at found
      · rename_i into
        obtain rfl : inside.replayRoot = key := by simpa using into
        obtain rfl := Option.some.inj found
        rw [continued _ (held above), opened, Option.any_some, if_pos (by simp),
          ← bufferLine_newest, ← holds _ top above own]
      · rename_i elsewhere
        have differ : inside.replayRoot ≠ key := by simpa using elsewhere
        rw [continued key (held found), opened, Option.any_some, if_neg (by simpa using differ),
          List.append_nil]
        exact holds key frame found root

namespace System

variable {system next : System} {config : SessionConfig} {record : String → List IrcMessage}
  {readings : Readings} {action : Action}

omit [Platform] in
/-- A collected line is an event. -/
theorem ledgerEvent_of_collected {message : IrcMessage}
    (collected : system.collectedLine action = some message) :
    system.ledgerEvent action = some (.collects message) := by
  obtain ⟨dispatched, taken⟩ := Option.filter_eq_some_iff.mp collected
  have other : system.batchLine action = none := by
    rw [batchLine, dispatched, Option.filter_some, if_neg]
    intro batch
    simp only [Bool.and_eq_true, decide_eq_true_eq] at taken batch
    exact taken.1 batch
  cases action
  case handleLine =>
    simp only [ledgerEvent, other, collected]
    rfl
  all_goals simp [dispatchedLine] at dispatched

omit [Platform] in
/-- A BATCH line is an event. -/
theorem ledgerEvent_of_batch {message : IrcMessage}
    (batch : system.batchLine action = some message) :
    system.ledgerEvent action = some (.batch message) := by
  cases action
  case handleLine =>
    simp only [ledgerEvent, batch]
    rfl
  all_goals simp [batchLine, dispatchedLine] at batch

omit [Platform] in
/-- A line that no batch collects goes into no tree. -/
theorem replayedInto_eq_none (forest : system.core.batches.IsForest)
    (uncollected : system.collectedLine action = none) {reference : String}
    (named : reference ≠ "") : system.replayedInto action reference = none := by
  unfold replayedInto
  rw [Option.filter_eq_none_iff]
  intro message dispatched taken
  simp only [Bool.and_eq_true, decide_eq_true_eq] at taken
  obtain ⟨other, inside⟩ := taken
  obtain ⟨frame, opened, root⟩ := exists_of_any inside
  have root : frame.replayRoot = reference := of_decide_eq_true root
  have swallowed : (system.core.captureInBatch message).2 = true := by
    refine system.core.captureInBatch_swallows forest ?_
    simp [BatchLedger.swallows, opened, root, named, forest.reference_ne_empty opened]
  rw [collectedLine, dispatched, Option.filter_some, if_pos (by simp [other, swallowed])]
    at uncollected
  cases uncollected

/-- A step keeps the newest lines of every open root. -/
theorem holdsNewest_step (orderly : system.Orderly) (forest : system.core.batches.IsForest)
    (holds : system.core.batches.HoldsNewest record)
    (stepped : system.step readings action = some next) :
    next.core.batches.HoldsNewest (replayMonitor.watch record system (readings, action) next) := by
  have moves := step_moves orderly stepped
  intro reference frame found root
  have kept (uncollected : system.collectedLine action = none)
      (before : system.core.batches.openBatches[reference]? = some frame) :
      frame.collected.lines =
        (replayMonitor.watch record system (readings, action) next reference).rtake
          historyBufferCeiling := by
    have held : system.core.batches.openBatches.contains reference = true := by
      rw [Std.TreeMap.contains_eq_isSome_getElem?, before, Option.isSome_some]
    have silent := replayedInto_eq_none forest uncollected (forest.reference_ne_empty before)
    simp only [replayMonitor, if_pos held, silent, Option.toList_none, List.append_nil]
    exact holds reference frame before root
  cases event : system.ledgerEvent action with
  | none =>
      rw [event] at moves
      have uncollected : system.collectedLine action = none := by
        by_contra collected
        obtain ⟨message, collected⟩ := Option.ne_none_iff_exists'.mp collected
        rw [ledgerEvent_of_collected collected] at event
        cases event
      rcases LedgerMoves.tended moves forest with tended | empty
      · exact kept uncollected (tended.kept reference frame found)
      · rw [(empty reference).1] at found
        cases found
  | some performed =>
      rw [event] at moves
      rw [show next.core.batches = _ from congrArg Ledgers.batches moves] at found
      by_cases other : ∀ message, performed ≠ .collects message
      · have uncollected : system.collectedLine action = none := by
          by_contra collected
          obtain ⟨message, collected⟩ := Option.ne_none_iff_exists'.mp collected
          rw [ledgerEvent_of_collected collected] at event
          exact other message (Option.some.inj event).symm
        rcases LedgerEvent.opens other found with before | ⟨closed, empty⟩
        · exact kept uncollected before
        · have fresh : system.core.batches.openBatches.contains reference = false := by
            rw [Std.TreeMap.contains_eq_isSome_getElem?, show
              system.core.batches.openBatches[reference]? = none from closed, Option.isSome_none]
          simp only [replayMonitor]
          rw [if_neg (by rw [fresh]; decide), List.rtake_nil, empty]
      · simp only [not_forall, not_not] at other
        obtain ⟨message, rfl⟩ := other
        obtain ⟨handles, collected⟩ := action_of_ledgerEvent event
        obtain ⟨dispatched, taken⟩ := Option.filter_eq_some_iff.mp collected
        simp only [Bool.and_eq_true, decide_eq_true_eq] at taken
        obtain ⟨line, swallowed⟩ := taken
        have prepared := Core.captureInBatch_prepared (system.core.withReadings readings) message
        have read := system.core.captureInBatch_congr (system.core.withReadings readings) rfl message
        obtain ⟨batches, captured, collects⟩ :=
          Core.captureInBatch_outcome _ (prepared.trans (read.trans swallowed))
        rw [show ((system.core.withReadings readings).prepareMessage message).batches =
            system.core.batches from congrArg Ledgers.batches (Core.prepareMessage_ledgers _ message)]
          at collects
        rw [LedgerEvent.apply, captured] at found
        refine holds.collects forest collects (fun key opened => ?_) reference frame found root
        simp only [replayMonitor, if_pos opened, replayedInto, handles, dispatched,
          Option.filter_some, line, ne_eq, not_false_eq_true, decide_true, Bool.true_and]
        split
        all_goals rfl

/-- Only the close of a batch delivers. -/
theorem delivered_step (orderly : system.Orderly) (forest : system.core.batches.IsForest)
    (holds : system.core.batches.HoldsNewest record)
    (stepped : system.step readings action = some next) :
    next.core.ledgers.deliveredBatches = system.core.ledgers.deliveredBatches ++
      (system.closedBatch action).elim [] fun reference =>
        system.core.closeDeliveries reference ((record reference).rtake historyBufferCeiling) := by
  have moves := step_moves orderly stepped
  have silent (kept : next.core.ledgers.deliveredBatches = system.core.ledgers.deliveredBatches)
      (unclosed : system.closedBatch action = none) :
      next.core.ledgers.deliveredBatches = system.core.ledgers.deliveredBatches ++
        (system.closedBatch action).elim [] fun reference =>
          system.core.closeDeliveries reference
            ((record reference).rtake historyBufferCeiling) := by
    rw [unclosed, Option.elim_none, List.append_nil]
    exact kept
  have unclosed (other : ∀ message, system.ledgerEvent action ≠ some (.batch message)) :
      system.closedBatch action = none := by
    cases batch : system.batchLine action with
    | none => rw [closedBatch, batch, Option.bind_none]
    | some message => exact absurd (ledgerEvent_of_batch batch) (other message)
  cases found : system.ledgerEvent action with
  | none =>
      rw [found] at moves
      have kept : LedgerMoves True (system.core.withReadings readings) next.core := moves
      exact silent kept.delivered (unclosed (by simp [found]))
  | some event =>
      rw [found] at moves
      have same : next.core.ledgers.deliveredBatches =
          (event.apply (system.core.withReadings readings)).ledgers.deliveredBatches :=
        congrArg Ledgers.deliveredBatches moves
      cases event with
      | batch message =>
          obtain ⟨rfl, batch⟩ := action_of_ledgerEvent found
          let core := (system.core.withReadings readings).reportInbound message
          have reported : core.ledgers.deliveredBatches = system.core.ledgers.deliveredBatches :=
            (congrArg Ledgers.deliveredBatches
              (Core.reportInbound_quiet (system.core.withReadings readings) message) :)
          rw [same, LedgerEvent.apply, Core.handleBatch, closedBatch, batch, Option.bind_some]
          split
          · rename_i unnamed
            simp only [unnamed, Option.elim_none, List.append_nil]
            exact reported
          · rename_i reference closing
            simp only [closing, Option.elim_some]
            rw [← reported]
            exact core.closeBatch_delivered forest reference (holds reference)
          · rename_i reference other opening
            simp only [opening]
            split
            · rename_i same
              cases same
              exact (other rfl).elim
            · rw [Option.elim_none, List.append_nil, ← reported]
              exact congrArg (List.filterMap SessionEvent.deliveredBatch)
                (core.openBatch_events message reference)
      | collects message =>
          refine silent (same.trans ?_) (unclosed (by simp [found]))
          have captured := Core.captureInBatch_agree
            ((system.core.withReadings readings).prepareMessage message) message
          have prepared := Core.prepareMessage_ledgers (system.core.withReadings readings) message
          refine (congrArg Ledgers.deliveredBatches captured :).trans ?_
          exact (congrArg Ledgers.deliveredBatches prepared :)
      | begins =>
          refine silent (same.trans ?_) (unclosed (by simp [found]))
          exact (congrArg Ledgers.deliveredBatches
            (system.core.withReadings readings).beginLabeledRequest_agree :)
      | drops label =>
          refine silent (same.trans ?_) (unclosed (by simp [found]))
          exact (congrArg Ledgers.deliveredBatches
            ((system.core.withReadings readings).dropRequestLabel_agree label) :)

end System

end Runs

section Reference

/-- The runs are on the reference platform. -/
local instance bufferPlatform : Platform := reference

namespace System

end System

end Reference

end Omairc.Session
