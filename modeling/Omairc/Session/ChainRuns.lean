import Omairc.Session.ChainCloses

/-!
# AFTER chains over runs

Over every run, the requests that a call of `requestHistoryAfter` leads to stay below the page
cap, and at most one LATEST closes them. The law needs the page count of a chain that is under
way to be kept. Two steps lose it: a line that changes the case mapping, and a refused call for
a target whose page is still arriving.
-/

namespace Omairc.Session

open Omairc.Text Omairc.Irc

/-- What a step may do to the AFTER chain of a target. -/
inductive ChainStep
  | calls (target : String)
  | closes (target : String)

namespace Core

variable (core : Core)

/-- The open batches that are pages of an AFTER chain. -/
def openPages : List OpenBatch :=
  (core.batches.openBatches.toList.map Prod.snd).filter fun batch =>
    batch.historyRequest = some .after

/-- Whether a page of a target is arriving at its current generation. -/
def pageArrives (target : String) : Bool :=
  core.openPages.any fun batch =>
    core.foldChannel batch.collected.target = core.foldChannel target &&
      batch.generation = core.historyGeneration target

/-- Whether a page of a target is asked for or open. -/
def hasChain (target : String) : Bool :=
  core.history.pendingKind[core.foldChannel target]? = some .after ||
    core.openPages.any fun batch =>
      core.foldChannel batch.collected.target = core.foldChannel target

/-- Whether adopted features give a target another key, or the key of another target's page. -/
def refolds (adopted : Core) (target : String) : Bool :=
  adopted.foldChannel target ≠ core.foldChannel target ||
    core.openPages.any fun batch =>
      adopted.foldChannel batch.collected.target = adopted.foldChannel target &&
        core.foldChannel batch.collected.target ≠ core.foldChannel target

end Core

/-- What a message may do to the AFTER chain of a target: this session's JOIN may call for it,
and the close of a batch may continue it. -/
def Core.chainLine (core : Core) (message : IrcMessage) : Option ChainStep :=
  if message.command = "BATCH" then
    match batchReference (message.textParam 0) with
    | some ('-', reference) =>
        (core.batches.openBatches[reference]?).map fun batch => .closes batch.collected.target
    | _ => none
  else if (core.captureInBatch message).2 then none
  else if core.joins message then some (.calls (message.textParam 0))
  else none

theorem Core.chainLine_withReadings (core : Core) (readings : Readings) (message : IrcMessage) :
    (core.withReadings readings).chainLine message = core.chainLine message := by
  rw [chainLine, chainLine, core.captureInBatch_congr (core.withReadings readings) rfl]
  rfl

/-- The record of a target's chain after a step that may start or continue it. -/
def ChainRecord.stepped (record : ChainRecord) (core changed : Core) (target : String) :
    Option ChainStep → ChainRecord
  | none => record
  | some (.calls called) =>
      record.called (core.foldChannel called = core.foldChannel target)
        (changed.requests "AFTER" - core.requests "AFTER")
  | some (.closes closed) =>
      record.paged (core.foldChannel closed = core.foldChannel target)
        (changed.requests "AFTER" - core.requests "AFTER")
        (changed.requests "LATEST" - core.requests "LATEST")

/-- The record depends on the requests that were sent. -/
theorem ChainRecord.stepped_congr (record : ChainRecord) {core changed other : Core} {target : String}
    {step : Option ChainStep} (sent : other.sentFrames = changed.sentFrames) :
    record.stepped core other target step = record.stepped core changed target step := by
  have same (subcommand : String) : other.requests subcommand = changed.requests subcommand := by
    rw [Core.requests, Core.requests, sent]
  cases step with
  | none => rfl
  | some step =>
      cases step
      all_goals simp only [stepped, same]

section Ledger

variable {core : Core} {target : String} {record : ChainRecord}

theorem Core.mem_openPages {batch : OpenBatch} :
    batch ∈ core.openPages ↔ ∃ reference : String, core.batches.openBatches[reference]? = some batch ∧
      batch.historyRequest = some .after := by
  rw [openPages, List.mem_filter, ← values_eq_map_toList, mem_values_iff, decide_eq_true_eq]
  exact ⟨fun ⟨⟨reference, found⟩, page⟩ => ⟨reference, found, page⟩,
    fun ⟨reference, found, page⟩ => ⟨⟨reference, found⟩, page⟩⟩

/-- A page that arrives in the ledger is seen by the session. -/
theorem Core.pageArrives_of_arrives {reference : String}
    (arriving : core.ledgers.Arrives (core.foldChannel target) reference) :
    core.pageArrives target = true := by
  obtain ⟨batch, opened, current⟩ := arriving
  rw [pageArrives, List.any_eq_true]
  refine ⟨batch, mem_openPages.mpr ⟨reference, opened.opened, opened.answers⟩, ?_⟩
  have key : core.foldChannel batch.collected.target = core.foldChannel target := opened.target
  have age : batch.generation = core.historyGeneration target := current
  simp [key, age]

/-- Features that bring no chain to the target keep the count of its pages. -/
theorem Core.adopted_counts {adopted : Core} (counts : core.ledgers.Counts target record)
    (same : adopted.ledgers = { core.ledgers with features := adopted.features })
    (kept : (adopted.hasChain target && core.refolds adopted target) = false) :
    adopted.ledgers.Counts target record := by
  have history : adopted.history = core.history := congrArg Ledgers.history same
  have batches : adopted.batches = core.batches := congrArg Ledgers.batches same
  by_cases chains : adopted.hasChain target = true
  · rw [chains, Bool.true_and, refolds, Bool.or_eq_false_iff] at kept
    obtain ⟨folds, alike⟩ := kept
    have key : adopted.foldChannel target = core.foldChannel target := by simpa using folds
    have alike : core.ledgers.Alike (core.foldChannel target) adopted.ledgers := by
      refine ⟨fun reference batch opened => ?_, ?_, ?_⟩
      · have before : core.batches.openBatches[reference]? = some batch := by
          rw [← batches]
          exact opened.opened
        have page := List.any_eq_false.mp alike batch
          (mem_openPages.mpr ⟨reference, before, opened.answers⟩)
        have mine : adopted.foldChannel batch.collected.target = core.foldChannel target :=
          opened.target
        have kept : core.foldChannel batch.collected.target = core.foldChannel target := by
          simpa [mine, key] using page
        exact ⟨before, opened.answers, kept⟩
      · rw [Ledgers.generation, Ledgers.generation, Core.ledgers_history, Core.ledgers_history,
          history]
      · rw [Core.ledgers_history, history]
        rfl
    change adopted.ledgers.PagesCounted (adopted.foldChannel target) record
    rw [key]
    refine Ledgers.PagesCounted.recount counts alike counts.bounded fun chaining => ?_
    have pages : adopted.ledgers.pages (core.foldChannel target) =
        core.ledgers.pages (core.foldChannel target) := by
      rw [Ledgers.pages, Ledgers.pages, Core.ledgers_history, Core.ledgers_history, history]
    rw [pages]
    refine counts.counted ?_
    rcases chaining with pending | ⟨reference, arriving⟩
    · rw [Core.ledgers_history, history] at pending
      exact .inl pending
    · exact .inr ⟨reference, alike.arrives arriving⟩
  · rw [Bool.not_eq_true, hasChain, Bool.or_eq_false_iff] at chains
    obtain ⟨unasked, closed⟩ := chains
    refine .of_idle (fun reference batch opened => ?_) ?_ ?_ counts.bounded
    · refine List.any_eq_false.mp closed batch
        (mem_openPages.mpr ⟨reference, opened.opened, opened.answers⟩) ?_
      rw [decide_eq_true_eq]
      exact opened.target
    · exact of_decide_eq_false unasked
    · rw [Core.ledgers_history, history]
      exact counts.capped

variable [Platform]

omit [Platform] in
/-- A change of the labels alone leaves the count. -/
theorem Core.labels_counts {changed : Core} (agree : Agree .besidesLabels core changed)
    (counts : core.ledgers.Counts target record) : changed.ledgers.Counts target record := by
  have history : changed.ledgers.history = core.ledgers.history := (congrArg Ledgers.history agree :)
  have batches : changed.ledgers.batches = core.ledgers.batches := (congrArg Ledgers.batches agree :)
  have features : changed.ledgers.features = core.ledgers.features :=
    (congrArg Ledgers.features agree :)
  refine Ledgers.Dwindles.counts (.of_wanes (fun _ _ found => batches ▸ found) features ?_) counts
  rw [history]
  exact .refl _ _

theorem Core.closeBatch_features (core : Core) (reference : String) :
    (core.closeBatch reference).features = core.features := by
  obtain ⟨tended, tending, finished, finishing, reported⟩ := core.closeBatch_agree reference
  have before : tended.features = core.features := (congrArg Ledgers.features tending :)
  have after : (core.closeBatch reference).features = finished.features :=
    (congrArg Ledgers.features reported :)
  rw [after, ← before]
  rcases finishing with rfl | finishing
  · rfl
  · exact (congrArg Ledgers.features finishing.agree :)

/-- A BATCH line keeps the count, with what its close sends. -/
theorem Core.handleBatch_counts (counts : core.ledgers.Counts target record) {message : IrcMessage}
    (batch : message.command = "BATCH") :
    ((core.reportInbound message).handleBatch message).ledgers.Counts target
      (record.stepped core ((core.reportInbound message).handleBatch message) target
        (core.chainLine message)) := by
  have silent : (core.reportInbound message).sentFrames = core.sentFrames :=
    emit_sentFrames core rfl
  have reported : (core.reportInbound message).ledgers = core.ledgers := core.reportInbound_quiet message
  have kept : (core.reportInbound message).ledgers.PagesCounted (core.foldChannel target) record := by
    rw [reported]
    exact counts
  have features (changed : Core) (agree : changed.features = core.features)
      {next : ChainRecord} (counted : changed.ledgers.PagesCounted (core.foldChannel target) next) :
      changed.ledgers.Counts target next := by
    rw [Ledgers.Counts, Ledgers.foldChannel, Core.ledgers_features, agree]
    exact counted
  rw [chainLine, if_pos batch, handleBatch]
  split
  · rename_i unnamed
    rw [unnamed, reported]
    exact counts
  · rename_i reference closing
    have agree : ((core.reportInbound message).closeBatch reference).features = core.features :=
      (core.reportInbound message).closeBatch_features reference
    obtain ⟨afters, latests, afterCount, latestCount, counted⟩ :=
      ((core.reportInbound message).closeBatch_counts kept reference).after silent
    refine features _ agree ?_
    rw [closing]
    simp only
    cases found : core.batches.openBatches[reference]? with
    | none =>
        have unopened : (core.reportInbound message).batches.openBatches[reference]? = none := found
        rw [unopened] at counted
        exact counted
    | some frame =>
        have opened : (core.reportInbound message).batches.openBatches[reference]? = some frame :=
          found
        rw [opened] at counted
        rw [Option.map_some, ChainRecord.stepped, afterCount, latestCount, Nat.add_sub_cancel_left,
          Nat.add_sub_cancel_left]
        exact counted
  · rename_i reference opening closing
    have agree : ((core.reportInbound message).openBatch message reference).features =
        core.features :=
      (congrArg Ledgers.features ((core.reportInbound message).openBatch_agree message reference)
        :).trans (congrArg Ledgers.features reported :)
    refine features _ agree ?_
    rw [closing]
    split
    · rename_i same
      cases same
      exact (opening rfl).elim
    · exact openBatch_counts kept message reference

omit [Platform] in
/-- A collected line changes no batch but the lines that its root holds. -/
theorem BatchLedger.Collects.earlier {batches after : BatchLedger} {message : IrcMessage}
    (collects : batches.Collects message after) {key : String} {frame : OpenBatch}
    (found : after.openBatches[key]? = some frame) :
    ∃ earlier lines, batches.openBatches[key]? = some earlier ∧
      frame = { earlier with collected.lines := lines } := by
  cases collects with
  | drops ignored => exact ⟨frame, frame.collected.lines, found, rfl⟩
  | @buffers child root opened held =>
      simp only [Std.TreeMap.getElem?_insert] at found
      split at found
      · rename_i same
        obtain rfl : child.replayRoot = key := by simpa using same
        exact ⟨root, _, held, (Option.some.inj found).symm⟩
      · exact ⟨frame, frame.collected.lines, found, rfl⟩

omit [Platform] in
/-- A collected line keeps the count. -/
theorem Core.captureInBatch_counts (counts : core.ledgers.Counts target record)
    {message : IrcMessage} (captured : (core.captureInBatch message).2 = true) :
    (core.captureInBatch message).1.ledgers.Counts target record := by
  obtain ⟨batches, collected, collects⟩ := core.captureInBatch_outcome captured
  rw [collected]
  refine Ledgers.Dwindles.counts ?_ counts
  refine ⟨rfl, rfl, fun reference batch opened => ?_, le_refl _, id, fun _ => rfl⟩
  obtain ⟨earlier, lines, found, rfl⟩ := collects.earlier opened.opened
  exact ⟨earlier, ⟨found, opened.answers, opened.target⟩, rfl, rfl, rfl, rfl⟩

omit [Platform] in
/-- A joined channel is recorded without a request. -/
theorem Core.recordAutojoin_sentFrames (core : Core) (channel : String) :
    (core.recordAutojoin channel true).sentFrames = core.sentFrames := by
  have reported (core : Core) : core.emitAutojoinChanged.sentFrames = core.sentFrames :=
    emit_sentFrames core rfl
  unfold recordAutojoin recordJoin
  simp only
  split_ifs
  any_goals rfl
  all_goals
    rw [reported]
    rfl

/-- The request for a channel's history adopts no features. -/
theorem Core.requestChannelHistory_features (core : Core) (channel : String) :
    (core.requestChannelHistory channel).features = core.features := by
  have latest (core : Core) : (core.requestHistoryLatest channel).1.features = core.features := by
    have move : HistoryMove True core (core.requestHistoryLatest channel).1 := .latest channel
    exact (congrArg Ledgers.features move.agree :)
  unfold requestChannelHistory
  split_ifs
  · rfl
  · rfl
  · split
    · rename_i time resumed
      have move : HistoryMove True core (core.requestHistoryAfter channel time).1 :=
        .after channel time trivial
      have asked : (core.requestHistoryAfter channel time).1.features = core.features :=
        (congrArg Ledgers.features move.agree :)
      split
      · rename_i sent result
        rw [result] at asked
        exact asked
      · rename_i refused result
        rw [result] at asked
        exact (latest refused).trans asked
    · exact latest core

/-- This session's own JOIN sends what its request for the channel's history sends. -/
theorem Core.deliverMessage_sentFrames {message : IrcMessage} (joined : core.joins message = true) :
    (core.deliverMessage message).sentFrames =
      (((core.emitMessageReceived message).bumpHistoryGeneration
        (message.textParam 0)).requestChannelHistory (message.textParam 0)).sentFrames := by
  simp only [joins, Bool.and_eq_true, decide_eq_true_eq] at joined
  obtain ⟨⟨join, self⟩, named⟩ := joined
  rw [core.deliverMessage_of_join join, noteMembership, if_pos ⟨join, self⟩, if_neg named,
    finishRequestLabel_sentFrames, noteSelfJoin]
  repeat' split
  all_goals exact recordAutojoin_sentFrames _ _

/-- This session's own JOIN counts the request that it makes under a new generation. -/
theorem Core.deliverMessage_counts (counts : core.ledgers.Counts target record)
    {message : IrcMessage} (joined : core.joins message = true) :
    (core.deliverMessage message).ledgers.Counts target
      (record.called (core.foldChannel (message.textParam 0) = core.foldChannel target)
        ((core.deliverMessage message).requests "AFTER" - core.requests "AFTER")) := by
  let received := core.emitMessageReceived message
  let bumped := received.bumpHistoryGeneration (message.textParam 0)
  have quiet : received.ledgers = core.ledgers := core.emitMessageReceived_quiet message
  have bump : HistoryMove False received bumped := .bumps _
  have before : received.ledgers.PagesCounted (core.foldChannel target) record := by
    rw [quiet]
    exact counts
  have counted : bumped.ledgers.PagesCounted (core.foldChannel target) record :=
    (bump.dwindles before).pagesCounted before
  have unarrived (same : bumped.foldChannel (message.textParam 0) = core.foldChannel target)
      (reference : String) : ¬ bumped.ledgers.Arrives (core.foldChannel target) reference := by
    rintro ⟨batch, opened, current⟩
    obtain ⟨-, -, -, aged⟩ := before.rooted reference batch (bump.opensPage opened)
    have fresh : bumped.ledgers.generation (core.foldChannel target) =
        received.ledgers.generation (core.foldChannel target) + 1 := by
      rw [← same]
      simp [Ledgers.generation, bumped, bumpHistoryGeneration, clearHistoryPending,
        historyGeneration, foldChannel]
    rw [current, fresh] at aged
    exact absurd aged (Nat.not_succ_le_self _)
  have silent : bumped.sentFrames = core.sentFrames := emit_sentFrames _ rfl
  obtain ⟨asked, requested, recounted⟩ := requestChannelHistory_counts counted unarrived
  have sent : (core.deliverMessage message).requests "AFTER" - core.requests "AFTER" = asked := by
    rw [requests, core.deliverMessage_sentFrames joined]
    rw [requests, requests, silent] at requested
    rw [requests, requested, Nat.add_sub_cancel_left]
  have moves : LineMoves False (bumped.requestChannelHistory (message.textParam 0))
      (core.deliverMessage message) := core.deliverMessage_joins joined
  rw [sent]
  refine moves.invariant _ LineMove.counts ?_
  rw [Ledgers.Counts, Ledgers.foldChannel, Core.ledgers_features, requestChannelHistory_features]
  exact recounted

/-- A message keeps the count, with what its call or its close sends. -/
theorem Core.handleMessage_counts (counts : core.ledgers.Counts target record)
    {message : IrcMessage} (unignored : core.ignores message = false)
    (kept : ((core.prepareMessage message).hasChain target &&
      core.refolds (core.prepareMessage message) target) = false) :
    (core.handleMessage message).ledgers.Counts target
      (record.stepped core (core.handleMessage message) target (core.chainLine message)) := by
  have prepared := core.adopted_counts counts (core.prepareMessage_ledgers message) kept
  by_cases batch : message.command = "BATCH"
  · rw [core.handleMessage_of_batch unignored batch]
    exact handleBatch_counts counts batch
  · rw [chainLine, if_neg batch]
    by_cases captured : (core.captureInBatch message).2 = true
    · rw [if_pos captured, core.handleMessage_of_captured unignored batch captured]
      refine captureInBatch_counts prepared ?_
      rw [captureInBatch_prepared]
      exact captured
    · rw [if_neg captured, core.handleMessage_of_uncaptured unignored batch
        (eq_false_of_ne_true captured)]
      by_cases joined : core.joins message = true
      · have join : message.command = "JOIN" := by
          simp only [joins, Bool.and_eq_true, decide_eq_true_eq] at joined
          exact joined.1.1
        have plain : core.prepareMessage message = core.reportInbound message :=
          core.prepareMessage_of_plain (by rw [join]; decide)
        rw [plain] at prepared ⊢
        rw [routeMessage_of_join _ join, if_pos joined]
        have silent : (core.reportInbound message).sentFrames = core.sentFrames :=
          emit_sentFrames core rfl
        have delivered := deliverMessage_counts prepared joined
        have before : (core.reportInbound message).requests "AFTER" = core.requests "AFTER" := by
          rw [requests, silent, requests]
        rw [before] at delivered
        exact delivered
      · rw [if_neg joined]
        have steady := (core.joins_prepared message).trans (eq_false_of_ne_true joined)
        exact ((core.prepareMessage message).routeMessage_moves steady).invariant _
          LineMove.counts prepared

end Ledger

namespace System

/-- What a step may do to the AFTER chain of a target. -/
def chainStep (system : System) (action : Action) : Option ChainStep :=
  match action with
  | .send (.historyAfter target _) => some (.calls target)
  | action => (system.dispatchedLine action).bind system.core.chainLine

/-- A record of the requests that the last call for a target led to. -/
def chainMonitor (target : String) : Semantics.Monitor System (Readings × Action) ChainRecord where
  initially := {}
  watch record system label next :=
    record.stepped system.core next.core target (system.chainStep label.2)

variable [Platform]

/-- A step loses the page count of a target's chain: its call is refused while a page of the
target is arriving, or its line changes the case mapping and with it the key of a chain. -/
def losesPages (target : String) (system : System) (label : Readings × Action) : Bool :=
  let core := system.core.withReadings label.1
  match label.2 with
  | .send (.historyAfter called after) =>
      core.foldChannel called = core.foldChannel target && core.refusesCall called after &&
        core.pageArrives target
  | action =>
      match system.dispatchedLine action with
      | none => false
      | some message =>
          (core.prepareMessage message).hasChain target &&
            core.refolds (core.prepareMessage message) target

section Steps

variable {system next : System} {readings : Readings} {action : Action} {target : String}
  {record : ChainRecord}

omit [Platform] in
/-- A step that handles no line and makes no call starts and continues no chain. -/
theorem chainStep_of_steady (steady : ¬ action.unsettles) : system.chainStep action = none := by
  have silent : system.dispatchedLine action = none := by
    unfold dispatchedLine
    split
    · exact absurd (.inl rfl) steady
    · rfl
  unfold chainStep
  split
  · exact absurd (.inr ⟨_, _, rfl⟩) steady
  · rw [silent]
    rfl

/-- A read line handles the message that it dispatches, and otherwise moves no ledger. -/
theorem handleLine_outcome (orderly : system.Orderly)
    (stepped : system.step readings .handleLine = some next) :
    match system.dispatchedLine .handleLine with
    | none => Quiet (system.core.withReadings readings) next.core
    | some message => (system.core.withReadings readings).ignores message = false ∧
        Quiet ((system.core.withReadings readings).handleMessage message) next.core ∧
          ((system.core.withReadings readings).handleMessage message).sentFrames =
            next.core.sentFrames := by
  have handled {frame : Bytes} {rest : List Bytes} (reading : system.reading = frame :: rest)
      (settled : (system.core.withReadings readings).state ≠ .stsUpgrading) {changed : Core}
      (same : Quiet ((system.core.withReadings readings).handleFrame frame) changed)
      (silent : ((system.core.withReadings readings).handleFrame frame).sentFrames =
        changed.sentFrames) :
      match system.dispatchedLine .handleLine with
      | none => Quiet (system.core.withReadings readings) changed
      | some message => (system.core.withReadings readings).ignores message = false ∧
          Quiet ((system.core.withReadings readings).handleMessage message) changed ∧
            ((system.core.withReadings readings).handleMessage message).sentFrames =
              changed.sentFrames := by
    have unsettled : system.core.state ≠ .stsUpgrading := settled
    have ignoring : system.core.ignores = (system.core.withReadings readings).ignores := rfl
    simp only [dispatchedLine, reading, if_neg unsettled]
    rw [Core.handleFrame] at same silent
    cases parsed : parse frame with
    | error error =>
        rw [parsed] at same
        exact (Quiet.emit _ ⟨rfl, rfl⟩).trans same
    | ok message =>
        rw [parsed] at same silent
        simp only at same silent ⊢
        rw [ignoring]
        by_cases ignored : (system.core.withReadings readings).ignores message = true
        · rw [if_pos ignored]
          simp only
          rw [Core.handleMessage, if_pos ignored] at same
          exact same
        · rw [if_neg ignored]
          exact ⟨eq_false_of_ne_true ignored, same, silent⟩
  cases step_outcome orderly stepped with
  | enters quiet resting entry => cases entry
  | drops reading resting delivers upgrading =>
      have kept : system.core.state = .stsUpgrading := upgrading
      simp only [dispatchedLine, reading, if_pos kept]
      exact dispatchEffects_quiet _ _
  | handles reading resting delivers settled more => exact handled reading settled rfl rfl
  | finishes reading resting delivers settled =>
      exact handled reading settled (dispatchEffects_quiet _ _) rfl

omit [Platform] in
/-- The readings of a step leave the count. -/
theorem withReadings_counts (counts : system.core.ledgers.Counts target record)
    (readings : Readings) : (system.core.withReadings readings).ledgers.Counts target record := by
  have same : Ledgers.Dwindles (system.core.ledgers.foldChannel target) system.core.ledgers
      (system.core.withReadings readings).ledgers :=
    .of_wanes (fun _ _ found => found) rfl (.refl _ _)
  exact same.counts counts

/-- A step that handles no line and makes no call leaves the count. -/
theorem steady_counts (orderly : system.Orderly)
    (counts : system.core.ledgers.Counts target record) (steady : ¬ action.unsettles)
    (stepped : system.step readings action = some next) :
    next.core.ledgers.Counts target record := by
  have timed := withReadings_counts counts readings
  have moves := step_moves_of orderly stepped (steady : action.unsettles → False)
  split at moves
  · exact moves.invariant _ LedgerMove.counts timed
  · rename_i event found
    have performed := action_of_ledgerEvent found
    rw [show next.core.ledgers = _ from moves]
    cases event with
    | batch message => exact (steady (.inl performed.1)).elim
    | collects message => exact (steady (.inl performed.1)).elim
    | begins => exact Core.labels_counts (Core.beginLabeledRequest_agree _) timed
    | drops label => exact Core.labels_counts (Core.dropRequestLabel_agree _ label) timed

/-- A read line that brings no chain to another key counts what its call or its close sends. -/
theorem handleLine_counts (orderly : system.Orderly)
    (counts : system.core.ledgers.Counts target record)
    (kept : losesPages target system (readings, .handleLine) = false)
    (stepped : system.step readings .handleLine = some next) :
    next.core.ledgers.Counts target (record.stepped system.core next.core target
      (system.chainStep .handleLine)) := by
  have timed := withReadings_counts counts readings
  have outcome := handleLine_outcome orderly stepped
  simp only [losesPages] at kept
  rw [chainStep]
  cases dispatched : system.dispatchedLine .handleLine with
  | none =>
      rw [dispatched] at outcome
      rw [show next.core.ledgers = _ from outcome]
      exact timed
  | some message =>
      rw [dispatched] at outcome kept
      obtain ⟨unignored, quiet, sent⟩ := outcome
      rw [show next.core.ledgers = _ from quiet, Option.bind_some,
        ← record.stepped_congr sent]
      have handled := Core.handleMessage_counts timed unignored kept
      rw [Core.chainLine_withReadings] at handled
      exact handled
  all_goals simp

/-- A call that is not refused while a page arrives counts the request that it makes. -/
theorem call_counts (orderly : system.Orderly)
    (counts : system.core.ledgers.Counts target record) {called : String} {after : Instant}
    (kept : losesPages target system (readings, .send (.historyAfter called after)) = false)
    (stepped : system.step readings (.send (.historyAfter called after)) = some next) :
    next.core.ledgers.Counts target
      (record.stepped system.core next.core target (some (.calls called))) := by
  have timed := withReadings_counts counts readings
  let core := system.core.withReadings readings
  cases step_outcome orderly stepped with
  | enters quiet resting entry =>
      cases entry
      change (core.requestHistoryAfter called after).1.ledgers.Counts target _
      have unrefused (same : core.foldChannel called = core.foldChannel target)
          (refuses : core.refusesCall called after = true) (reference : String) :
          ¬ core.ledgers.Arrives (core.foldChannel target) reference := by
        intro arriving
        have seen := Core.pageArrives_of_arrives arriving
        simp [losesPages, core, same, refuses, seen] at kept
      obtain ⟨asked, requested, counted⟩ := Core.requestHistoryAfter_counts timed called after unrefused
      have move : HistoryMove True core (core.requestHistoryAfter called after).1 :=
        .after called after trivial
      have features : (core.requestHistoryAfter called after).1.features = core.features :=
        (congrArg Ledgers.features move.agree :)
      have sent : (core.requestHistoryAfter called after).1.requests "AFTER" -
          core.requests "AFTER" = asked := by
        rw [requested, Nat.add_sub_cancel_left]
      rw [← sent] at counted
      rw [Ledgers.Counts, Ledgers.foldChannel, Core.ledgers_features, features]
      exact counted

/-- A step that keeps the page count of a target's chain counts what its call or its close
sends. -/
theorem chain_step {label : Readings × Action} (orderly : system.Orderly)
    (counts : system.core.ledgers.Counts target record)
    (kept : losesPages target system label = false) (stepped : transition system label = some next) :
    next.core.ledgers.Counts target ((chainMonitor target).watch record system label next) := by
  obtain ⟨readings, action⟩ := label
  change next.core.ledgers.Counts target
    (record.stepped system.core next.core target (system.chainStep action))
  by_cases unsettled : action.unsettles
  · rcases unsettled with rfl | ⟨called, after, rfl⟩
    · exact handleLine_counts orderly counts kept stepped
    · exact call_counts orderly counts kept stepped
  · rw [chainStep_of_steady unsettled]
    exact steady_counts orderly counts unsettled stepped

/-- In every run that keeps the page count of a target's chain, the session sends at most the
page cap of AFTER requests for one call, and at most one LATEST that closes its chain. -/
theorem after_chain_bounded {config : SessionConfig} (target : String)
    (observed : (chainMonitor target).Observes transition
      (fun state label => losesPages target state.1 label = false) (initial config) system record) :
    record.afters ≤ historyAfterPageCap ∧ record.latests ≤ 1 := by
  suffices counts : system.core.ledgers.Counts target record from counts.bounded
  refine (observed.invariant (fun system record => system.Orderly ∧
    system.core.ledgers.Counts target record) ⟨⟨fun _ => rfl, fun reads => absurd rfl reads⟩, ?_⟩ ?_).2
  · refine .of_idle (fun reference batch opened => ?_) ?_ rfl ⟨Nat.zero_le _, Nat.zero_le _⟩
    · exact nomatch opened.opened.symm.trans Std.TreeMap.getElem?_emptyc
    · exact fun pending => nomatch pending.symm.trans Std.TreeMap.getElem?_emptyc
  · intro current record label next ⟨orderly, counts⟩ kept stepped
    exact ⟨orderly.step stepped, chain_step orderly counts kept stepped⟩

end Steps

end System

section Reference

/-- The runs are on the reference platform. -/
local instance chainPlatform : Platform := reference

/-- A page of one message answers the chain of a channel. -/
def pageLines (channel reference : String) : List String :=
  [":s BATCH +" ++ reference ++ " chathistory " ++ channel,
    "@batch=" ++ reference ++ ";msgid=m :a PRIVMSG " ++ channel ++ " :t",
    ":s BATCH -" ++ reference]

/-- A call for the history of a channel after a time, and nine pages that answer it. -/
def chainActions (channel : String) : List Action :=
  historyActions ++ readActions [":s 005 nick CHATHISTORY=1 :ok"] ++
    [.send (.historyAfter channel 5)] ++ performActions 1 ++
      ["a", "b", "c", "d", "e", "f", "g", "h", "i"].flatMap fun reference =>
        readActions (pageLines channel reference) ++ performActions 1

/-- The tenth page of a chain arrives while the server changes the case mapping. -/
def remappedPage (channel : String) : List Action :=
  let page := pageLines channel "j"
  readActions (page.take 2 ++ [":s 005 nick CASEMAPPING=ascii :ok"] ++ page.drop 2) ++
    performActions 1

namespace System

/-- A chain that meets the cap is closed by one LATEST. -/
theorem after_chain_bounded_closed :
    ∃ record : ChainRecord, record.afters = 10 ∧ record.latests = 1 ∧
      (record.afters ≤ historyAfterPageCap ∧ record.latests ≤ 1) := by
  have ran : (Semantics.runGuarded ((chainMonitor "#c").transition transition)
      (fun state label => losesPages "#c" state.1 label = false)
      (initial plaintextProfile, (chainMonitor "#c").initially)
      (underOneClock (chainActions "#c" ++ readActions (pageLines "#c" "j")))).any
        (fun reached => decide (reached.2.afters = 10 ∧ reached.2.latests = 1)) = true := by
    decide +kernel
  obtain ⟨reached, taken, ended⟩ := exists_of_any ran
  obtain ⟨afters, latests⟩ := of_decide_eq_true ended
  exact ⟨reached.2, afters, latests, after_chain_bounded "#c" (.of_runGuarded taken)⟩

/-- A change of the case mapping while the tenth page arrives sends an eleventh request. -/
theorem remapped_chain_exceeds_cap :
    ¬ ∀ config target system record,
      (chainMonitor target).Observes transition (fun _ _ => True) (initial config) system record →
        record.afters ≤ historyAfterPageCap ∧ record.latests ≤ 1 := by
  intro law
  have ran : (Semantics.runAll ((chainMonitor "[x").transition transition)
      (initial plaintextProfile, (chainMonitor "[x").initially)
      (underOneClock (chainActions "[x" ++ remappedPage "[x"))).any
        (fun reached => decide (reached.2.afters = 11)) = true := by
    decide +kernel
  obtain ⟨reached, taken, ended⟩ := exists_of_any ran
  have bound := (law plaintextProfile "[x" reached.1 reached.2 (.of_runAll taken)).1
  rw [of_decide_eq_true ended] at bound
  exact absurd bound (by decide)

end System

end Reference

end Omairc.Session
