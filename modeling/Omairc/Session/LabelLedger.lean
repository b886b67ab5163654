import Omairc.Semantics.Monitor
import Omairc.Session.LedgerFrames
import Omairc.Session.LedgerRuns
import Omairc.Session.Reference
import Omairc.Text.Maps

/-!
# The ledger of labels

A label that was handed out is outstanding, was finished once, or was dropped. The label
timer is armed exactly while a label is outstanding, for the earliest deadline.
-/

namespace Omairc.Session

open Omairc.Text Omairc.Irc

/-- The label of a request begun after some others. -/
def requestLabelAt (begun : Nat) : String := "lr" ++ toString (begun + 1)

/-- No two requests get one label. -/
theorem requestLabelAt_injective : Function.Injective requestLabelAt := by
  intro first second same
  have texts : (toString (first + 1)).toList = (toString (second + 1)).toList := by
    have lists := congrArg String.toList same
    simp only [requestLabelAt, String.toList_append] at lists
    exact List.append_cancel_left lists
  have digits : Nat.toDigits 10 (first + 1) = Nat.toDigits 10 (second + 1) := by
    rw [← Nat.toList_repr, ← Nat.toList_repr]
    exact texts
  have numbers : first + 1 = second + 1 := by
    rw [← Nat.ofDigitChars_ten_toDigits (n := first + 1), digits, Nat.ofDigitChars_ten_toDigits]
  omega

/-- What the owner saw of the labels: those handed out and those it dropped while they
were outstanding, with the clock when the labels or their timer last changed. -/
structure LabelRecord where
  issued : List String := []
  dropped : List String := []
  changedAt : Instant := 0

/-- Whether a label timer waits for the earliest of some deadlines, from an instant on. -/
def WaitsForEarliest (timer : Option ArmedTimer) (deadlines : StringMap Instant)
    (since : Instant) : Prop :=
  match timer with
  | none => ∀ label : String, deadlines[label]? = none
  | some armed => ∃ (label : String) (earliest : Instant), deadlines[label]? = some earliest ∧
      (∀ (other : String) (deadline : Instant), deadlines[other]? = some deadline →
        earliest ≤ deadline) ∧
      armed.delay = (earliest - since).toNat

/-- The timer of no labels is off, and of some labels it has the delay of the least. -/
theorem waitsForEarliest_iff {timer : Option ArmedTimer} {deadlines : StringMap Instant}
    {since : Instant} :
    WaitsForEarliest timer deadlines since ↔
      timer.map ArmedTimer.delay =
        deadlines.values.min?.map fun earliest => (earliest - since).toNat := by
  have none_iff : deadlines.values.min? = none ↔ ∀ label : String, deadlines[label]? = none := by
    rw [List.min?_eq_none_iff]
    constructor
    · intro empty label
      cases found : deadlines[label]? with
      | none => rfl
      | some deadline =>
          have listed : deadline ∈ deadlines.values := mem_values_iff.mpr ⟨label, found⟩
          simp [empty] at listed
    · intro absent
      refine List.eq_nil_iff_forall_not_mem.mpr fun deadline listed => ?_
      obtain ⟨label, found⟩ := mem_values_iff.mp listed
      rw [absent label] at found
      cases found
  have some_iff (earliest : Instant) : deadlines.values.min? = some earliest ↔
      (∃ label : String, deadlines[label]? = some earliest) ∧
        ∀ (other : String) (deadline : Instant), deadlines[other]? = some deadline →
          earliest ≤ deadline := by
    rw [List.min?_eq_some_iff, mem_values_iff]
    refine and_congr_right fun _ => ?_
    constructor
    · intro least other deadline found
      exact least deadline (mem_values_iff.mpr ⟨other, found⟩)
    · intro least deadline listed
      obtain ⟨other, found⟩ := mem_values_iff.mp listed
      exact least other deadline found
  cases timer with
  | none =>
      simp only [WaitsForEarliest, ← none_iff, Option.map_none]
      cases deadlines.values.min? <;> simp
  | some armed =>
      simp only [WaitsForEarliest, Option.map_some]
      constructor
      · rintro ⟨label, earliest, found, least, delay⟩
        rw [(some_iff earliest).mpr ⟨⟨label, found⟩, least⟩, Option.map_some, delay]
      · intro same
        obtain ⟨earliest, least, delay⟩ := Option.map_eq_some_iff.mp same.symm
        obtain ⟨⟨label, found⟩, least⟩ := (some_iff earliest).mp least
        exact ⟨label, earliest, found, least, delay.symm⟩

/-- Every label handed out is outstanding, finished or dropped, once. -/
structure LabelAccount (issued dropped : List String) (ledgers : Ledgers) : Prop where
  numbered : issued = (List.range ledgers.nextRequestLabel).map requestLabelAt
  settled : ∀ label, ledgers.finishedLabels.count label + dropped.count label +
    (ledgers.pendingLabels.contains label).toNat = issued.count label

/-- What ending labels does: each ended label was outstanding and is reported once, and
the timer follows the labels that are left. -/
structure LabelsEnded (before after : Ledgers) : Prop where
  begun : after.nextRequestLabel = before.nextRequestLabel
  clock : after.now = before.now
  ended : ∃ labels : List String, labels.Nodup ∧
    (∀ label ∈ labels, before.pendingLabels.contains label = true) ∧
    after.finishedLabels = before.finishedLabels ++ labels ∧
    ∀ label, after.pendingLabels.contains label =
      (before.pendingLabels.contains label && !labels.contains label)
  timer : (after.labelTimer = before.labelTimer ∧ after.pendingLabels = before.pendingLabels) ∨
    WaitsForEarliest after.labelTimer after.pendingLabels after.now

namespace LabelsEnded

variable {first second third : Ledgers}

/-- Nothing ends when no label changes. -/
theorem of_same (begun : second.nextRequestLabel = first.nextRequestLabel)
    (clock : second.now = first.now) (pending : second.pendingLabels = first.pendingLabels)
    (timer : second.labelTimer = first.labelTimer)
    (finished : second.finishedLabels = first.finishedLabels) : LabelsEnded first second where
  begun := begun
  clock := clock
  ended := ⟨[], List.nodup_nil, by simp, by simp [finished], by simp [pending]⟩
  timer := .inl ⟨timer, pending⟩

/-- Changes under the masks of the other ledgers end no label. -/
theorem of_besidesHistory (agree : second.besidesHistory = first.besidesHistory) :
    LabelsEnded first second := by
  simp only [Ledgers.besidesHistory, Ledgers.mk.injEq] at agree
  obtain ⟨-, -, -, pending, begun, timer, clock, -, finished, -⟩ := agree
  exact .of_same begun clock pending timer finished

theorem of_besidesMarkers (agree : second.besidesMarkers = first.besidesMarkers) :
    LabelsEnded first second := by
  simp only [Ledgers.besidesMarkers, Ledgers.mk.injEq] at agree
  obtain ⟨-, -, -, pending, begun, timer, clock, -, finished, -⟩ := agree
  exact .of_same begun clock pending timer finished

/-- Labels that are removed and reported, under a timer that follows the rest, end. -/
theorem of_settled (labels : List String) {pendingLabels : StringMap Instant}
    {labelTimer : Option ArmedTimer} (distinct : labels.Nodup)
    (outstanding : ∀ label ∈ labels, first.pendingLabels.contains label = true)
    (left : ∀ label, pendingLabels.contains label =
      (first.pendingLabels.contains label && !labels.contains label))
    (waits : WaitsForEarliest labelTimer pendingLabels first.now)
    (same : second =
      { first with
        pendingLabels
        labelTimer
        finishedLabels := first.finishedLabels ++ labels }) : LabelsEnded first second := by
  subst same
  exact ⟨rfl, rfl, ⟨labels, distinct, outstanding, rfl, left⟩, .inr waits⟩

/-- Labels that end one after another end. -/
theorem trans (earlier : LabelsEnded first second) (later : LabelsEnded second third) :
    LabelsEnded first third where
  begun := later.begun.trans earlier.begun
  clock := later.clock.trans earlier.clock
  ended := by
    obtain ⟨labels, distinct, outstanding, finished, left⟩ := earlier.ended
    obtain ⟨others, otherwise, remaining, also, rest⟩ := later.ended
    refine ⟨labels ++ others, ?_, ?_, ?_, ?_⟩
    · refine List.nodup_append.mpr ⟨distinct, otherwise, ?_⟩
      rintro label ended other remains rfl
      have pending := remaining label remains
      rw [left label] at pending
      simp [ended] at pending
    · intro label listed
      rcases List.mem_append.mp listed with ended | remains
      · exact outstanding label ended
      · have pending := remaining label remains
        rw [left label, Bool.and_eq_true] at pending
        exact pending.1
    · rw [also, finished, List.append_assoc]
    · intro label
      rw [rest label, left label, List.contains_append, Bool.not_or, Bool.and_assoc]
  timer := by
    rcases later.timer with ⟨timer, pending⟩ | waits
    · rcases earlier.timer with ⟨before, already⟩ | waits
      · exact .inl ⟨timer.trans before, pending.trans already⟩
      · refine .inr ?_
        rw [timer, pending, later.clock]
        exact waits
    · exact .inr waits

/-- Ended labels keep the account. -/
theorem account {issued dropped : List String} (ended : LabelsEnded first second)
    (kept : LabelAccount issued dropped first) : LabelAccount issued dropped second := by
  obtain ⟨labels, distinct, outstanding, finished, left⟩ := ended.ended
  refine ⟨by rw [ended.begun]; exact kept.numbered, fun label => ?_⟩
  rw [← kept.settled label, finished, List.count_append, distinct.count, left label]
  by_cases member : label ∈ labels
  · simp only [member, if_true, outstanding label member, List.contains_eq_mem, decide_true,
      Bool.not_true, Bool.and_false, Bool.toNat_false, Bool.toNat_true]
    omega
  · simp [member]

/-- A timer that waits for the earliest deadline goes on waiting when nothing changes, and
waits from now on otherwise. -/
theorem waits (ended : LabelsEnded first second) {since : Instant}
    (waiting : WaitsForEarliest first.labelTimer first.pendingLabels since) :
    (second.labelTimer = first.labelTimer ∧ second.pendingLabels = first.pendingLabels ∧
      WaitsForEarliest second.labelTimer second.pendingLabels since) ∨
      WaitsForEarliest second.labelTimer second.pendingLabels first.now := by
  rcases ended.timer with ⟨timer, pending⟩ | waits
  · refine .inl ⟨timer, pending, ?_⟩
    rw [timer, pending]
    exact waiting
  · refine .inr ?_
    rw [← ended.clock]
    exact waits

end LabelsEnded

namespace Core

variable (core : Core)

/-- Arming the label timer sets it for the earliest deadline. -/
theorem armLabelTimer_ledgers :
    ∃ labelTimer, core.armLabelTimer.ledgers = { core.ledgers with labelTimer } ∧
      WaitsForEarliest labelTimer core.pendingLabels core.now := by
  unfold armLabelTimer
  cases least : core.pendingLabels.values.min? with
  | none =>
      refine ⟨none, by simp [ledgers, cancelTimer], ?_⟩
      rw [waitsForEarliest_iff, least, Option.map_none, Option.map_none]
  | some earliest =>
      refine ⟨some ⟨core.timerSequence + 1, (earliest - core.now).toNat⟩,
        by simp [ledgers, armTimer], ?_⟩
      rw [waitsForEarliest_iff, least, Option.map_some, Option.map_some]

end Core

/-- A move of the labels ends some of them. -/
theorem LabelMove.ends {core changed : Core} (move : LabelMove core changed) :
    LabelsEnded core.ledgers changed.ledgers := by
  cases move with
  | finishes label =>
      unfold Core.finishRequestLabel
      split
      · exact .of_same rfl rfl rfl rfl rfl
      · rename_i outstanding
        have pending : core.pendingLabels.contains label = true := by
          simp only [Core.hasPendingRequestLabel, Bool.not_eq_true', Bool.not_eq_false,
            Bool.and_eq_true] at outstanding
          exact outstanding.2
        obtain ⟨timer, armed, waits⟩ :=
          { core with pendingLabels := core.pendingLabels.erase label }.armLabelTimer_ledgers
        have told := Core.emitLabel_ledgers
          { core with pendingLabels := core.pendingLabels.erase label }.armLabelTimer
          core.networkId label
        rw [armed] at told
        refine .of_settled [label] (List.nodup_singleton label) ?_ ?_ waits told
        · intro other listed
          rw [List.mem_singleton.mp listed]
          exact pending
        · intro other
          rw [Std.TreeMap.contains_erase]
          by_cases same : label = other
          · simp [same]
          · have other : other ≠ label := Ne.symm same
            simp [same, other]
  | clears =>
      refine .of_settled core.pendingLabels.keys Std.TreeMap.nodup_keys ?_ ?_ ?_
        core.clearPendingRequestLabels_ledgers
      · intro label listed
        exact Std.TreeMap.mem_keys.mp listed
      · intro label
        rw [Std.TreeMap.contains_keys]
        simp
      · intro label
        simp
  | expires =>
      let expired := (core.pendingLabels.toList.filter fun entry => entry.2 ≤ core.now).map Prod.fst
      let left : Core :=
        { core.cancelTimer .label with
          pendingLabels := expired.foldl (fun left label => left.erase label) core.pendingLabels }
      obtain ⟨timer, armed, waits⟩ := (left.emitLabelsFinished expired).armLabelTimer_ledgers
      have told := left.emitLabelsFinished_ledgers expired
      have pending : (left.emitLabelsFinished expired).pendingLabels = left.pendingLabels :=
        congrArg Ledgers.pendingLabels told
      have clock : (left.emitLabelsFinished expired).now = core.now := congrArg Ledgers.now told
      have listed : expired.Sublist core.pendingLabels.keys := by
        rw [← Std.TreeMap.map_fst_toList_eq_keys]
        exact List.filter_sublist.map Prod.fst
      rw [told] at armed
      rw [pending, clock] at waits
      refine .of_settled expired (listed.nodup Std.TreeMap.nodup_keys) ?_ ?_ waits ?_
      · intro label ended
        exact Std.TreeMap.mem_keys.mp (listed.mem ended)
      · intro label
        have found := getElem?_foldl_erase expired core.pendingLabels label
        rw [Std.TreeMap.contains_eq_isSome_getElem?, found]
        by_cases ended : label ∈ expired
        · simp [ended]
        · simp [ended]
      · exact armed

section Runs

variable [Platform] {unsettled : Prop} {core changed : Core}

/-- Every move of a line ends labels, or none. -/
theorem LineMove.endsLabels (move : LineMove unsettled core changed) :
    LabelsEnded core.ledgers changed.ledgers := by
  cases move with
  | quiet change =>
      rw [show changed.ledgers = core.ledgers from change]
      exact .of_same rfl rfl rfl rfl rfl
  | adopts features allowed change =>
      rw [change]
      exact .of_same rfl rfl rfl rfl rfl
  | history move => exact .of_besidesHistory move.agree
  | marker move => exact .of_besidesMarkers move.agree
  | label move => exact move.ends

/-- Every move of the ledgers ends labels, or none. -/
theorem LedgerMove.endsLabels (move : LedgerMove unsettled core changed) :
    LabelsEnded core.ledgers changed.ledgers := by
  cases move with
  | line move => exact move.endsLabels
  | resets =>
      have cleared : LabelMove core core.clearPendingRequestLabels := .clears
      refine cleared.ends.trans ?_
      rw [core.resetForConnection_ledgers]
      exact .of_same rfl rfl rfl rfl rfl

theorem LedgerMoves.endsLabels (moves : LedgerMoves unsettled core changed) :
    LabelsEnded core.ledgers changed.ledgers := by
  induction moves with
  | refl => exact .of_same rfl rfl rfl rfl rfl
  | tail prior move inductionHypothesis => exact inductionHypothesis.trans move.endsLabels

namespace Core

variable (core : Core)

/-- Opening and closing batches ends labels, or none. -/
theorem handleBatch_endsLabels (message : IrcMessage) :
    LabelsEnded core.ledgers (core.handleBatch message).ledgers := by
  unfold handleBatch
  split
  · exact .of_same rfl rfl rfl rfl rfl
  · rename_i reference closing
    obtain ⟨tended, removed, finished, ended, delivered⟩ := core.closeBatch_agree reference
    refine (LabelsEnded.of_besidesHistory removed).trans
      (LabelsEnded.trans ?_ (.of_besidesHistory delivered))
    rcases ended with rfl | move
    · exact .of_same rfl rfl rfl rfl rfl
    · exact move.ends
  · exact .of_besidesHistory (core.openBatch_agree message _)

omit [Platform] in
/-- A request that begins gets the next label, outstanding until its deadline. -/
theorem beginLabeledRequest_ledgers :
    core.beginLabeledRequest.2 = requestLabelAt core.nextRequestLabel ∧
      ∃ deadline labelTimer, core.beginLabeledRequest.1.ledgers =
        { core.ledgers with
          nextRequestLabel := core.nextRequestLabel + 1
          pendingLabels := core.pendingLabels.insert (requestLabelAt core.nextRequestLabel) deadline
          labelTimer } ∧
        WaitsForEarliest labelTimer
          (core.pendingLabels.insert (requestLabelAt core.nextRequestLabel) deadline) core.now := by
  refine ⟨rfl, core.now + (core.config.labeledResponseTimeoutMs : Int) * millisecond, ?_⟩
  exact armLabelTimer_ledgers _

omit [Platform] in
/-- A label that is dropped is no longer outstanding. -/
theorem dropRequestLabel_ledgers (label : String) :
    core.hasPendingRequestLabel label = false ∧ core.dropRequestLabel label = core ∨
      core.hasPendingRequestLabel label = true ∧
        ∃ labelTimer, (core.dropRequestLabel label).ledgers =
          { core.ledgers with pendingLabels := core.pendingLabels.erase label, labelTimer } ∧
          WaitsForEarliest labelTimer (core.pendingLabels.erase label) core.now := by
  unfold dropRequestLabel
  cases outstanding : core.hasPendingRequestLabel label with
  | false => exact .inl ⟨rfl, rfl⟩
  | true => exact .inr ⟨rfl, armLabelTimer_ledgers _⟩

end Core

namespace LabelAccount

variable {issued dropped : List String} {ledgers : Ledgers}

omit [Platform] in
/-- The next label was never handed out, so nothing is known of it. -/
theorem fresh (account : LabelAccount issued dropped ledgers) :
    issued.count (requestLabelAt ledgers.nextRequestLabel) = 0 := by
  rw [List.count_eq_zero, account.numbered, List.mem_map]
  rintro ⟨begun, listed, same⟩
  rw [List.mem_range, requestLabelAt_injective same] at listed
  exact absurd listed (Nat.lt_irrefl _)

omit [Platform] in
/-- Handing out the next label keeps the account. -/
theorem begin (account : LabelAccount issued dropped ledgers) (deadline : Instant)
    (labelTimer : Option ArmedTimer) :
    LabelAccount (issued ++ [requestLabelAt ledgers.nextRequestLabel]) dropped
      { ledgers with
        nextRequestLabel := ledgers.nextRequestLabel + 1
        pendingLabels :=
          ledgers.pendingLabels.insert (requestLabelAt ledgers.nextRequestLabel) deadline
        labelTimer } := by
  refine ⟨by simp [List.range_succ, account.numbered], fun label => ?_⟩
  have settled := account.settled label
  have fresh := account.fresh
  simp only [Std.TreeMap.contains_insert, compared_beq_eq, List.count_append]
  by_cases next : requestLabelAt ledgers.nextRequestLabel = label
  · subst next
    simp only [fresh] at settled ⊢
    simp
    omega
  · simp [next, ← settled]

omit [Platform] in
/-- Dropping an outstanding label keeps the account. -/
theorem drop (account : LabelAccount issued dropped ledgers) {label : String}
    (outstanding : ledgers.pendingLabels.contains label = true) (labelTimer : Option ArmedTimer) :
    LabelAccount issued (dropped ++ [label])
      { ledgers with pendingLabels := ledgers.pendingLabels.erase label, labelTimer } := by
  refine ⟨account.numbered, fun other => ?_⟩
  have settled := account.settled other
  simp only [Std.TreeMap.contains_erase, bne, compared_beq_eq, List.count_append]
  by_cases same : label = other
  · subst same
    rw [outstanding] at settled
    simp at settled ⊢
    omega
  · simp [same, ← settled]

end LabelAccount

/-- Record the labels that are handed out and dropped, and the clock of each step that
changes the labels or their timer. -/
def labelMonitor : Semantics.Monitor System (Readings × Action) LabelRecord where
  initially := {}
  watch record system step next :=
    { issued :=
        match step.2 with
        | .startLabeledRequest =>
            if system.core.startLabeledRequest.2 = "" then record.issued
            else record.issued ++ [system.core.startLabeledRequest.2]
        | _ => record.issued
      dropped :=
        match step.2 with
        | .cancelRequestLabel label =>
            if system.core.hasPendingRequestLabel label then record.dropped ++ [label]
            else record.dropped
        | _ => record.dropped
      changedAt :=
        if next.core.timers .label = system.core.timers .label ∧
            next.core.pendingLabels.toList = system.core.pendingLabels.toList then
          record.changedAt
        else step.1.now }

namespace System

variable {system next : System} {record : LabelRecord} {readings : Readings} {action : Action}

omit [Platform] in
/-- A step that begins no label and drops none leaves the record of both. -/
theorem labelMonitor_watch_of_none (next : System) (record : LabelRecord) (readings : Readings)
    (unlabeled : system.ledgerEvent action = none) :
    (labelMonitor.watch record system (readings, action) next).issued = record.issued ∧
      (labelMonitor.watch record system (readings, action) next).dropped = record.dropped := by
  cases action
  all_goals first
    | exact ⟨rfl, rfl⟩
    | simp_all [labelMonitor, ledgerEvent, Core.startLabeledRequest]

/-- What holds of the labels and their record in every observed run. -/
structure LabelsKept (system : System) (record : LabelRecord) : Prop where
  orderly : system.Orderly
  account : LabelAccount record.issued record.dropped system.core.ledgers
  waits : WaitsForEarliest (system.core.timers .label) system.core.pendingLabels record.changedAt

omit [Platform] in
/-- A step under which the timer stays or is set keeps the timer's record. -/
theorem LabelsKept.watches (kept : system.LabelsKept record)
    (timed : (next.core.timers .label = system.core.timers .label ∧
      next.core.pendingLabels = system.core.pendingLabels) ∨
        WaitsForEarliest (next.core.timers .label) next.core.pendingLabels readings.now) :
    WaitsForEarliest (next.core.timers .label) next.core.pendingLabels
      (labelMonitor.watch record system (readings, action) next).changedAt := by
  have waits := kept.waits
  simp only [labelMonitor]
  split
  · rename_i same
    rw [waitsForEarliest_iff, values_eq_map_toList] at waits ⊢
    rw [same.1, same.2]
    exact waits
  · rename_i differ
    rcases timed with ⟨timer, pending⟩ | waits
    · exact absurd ⟨timer, by rw [pending]⟩ differ
    · exact waits

theorem LabelsKept.step (kept : system.LabelsKept record)
    (stepped : system.step readings action = some next) :
    next.LabelsKept (labelMonitor.watch record system (readings, action) next) := by
  have moves := step_moves kept.orderly stepped
  have orderly := kept.orderly.step stepped
  have account : LabelAccount record.issued record.dropped
      (system.core.withReadings readings).ledgers := ⟨kept.account.numbered, kept.account.settled⟩
  have ends (ended : LabelsEnded (system.core.withReadings readings).ledgers next.core.ledgers)
      (begun : (labelMonitor.watch record system (readings, action) next).issued = record.issued)
      (left : (labelMonitor.watch record system (readings, action) next).dropped = record.dropped) :
      next.LabelsKept (labelMonitor.watch record system (readings, action) next) := by
    refine ⟨orderly, by rw [begun, left]; exact ended.account account, kept.watches ?_⟩
    rcases ended.waits kept.waits with ⟨timer, pending, -⟩ | waits
    · exact .inl ⟨timer, pending⟩
    · exact .inr waits
  cases found : system.ledgerEvent action with
  | none =>
      rw [found] at moves
      obtain ⟨begun, left⟩ := labelMonitor_watch_of_none next record readings found
      exact ends (LedgerMoves.endsLabels moves) begun left
  | some event =>
      rw [found] at moves
      have same : next.core.ledgers = (event.apply (system.core.withReadings readings)).ledgers :=
        moves
      have performed := action_of_ledgerEvent found
      cases event with
      | batch message =>
          obtain ⟨rfl, batch⟩ := performed
          have reported : Quiet (system.core.withReadings readings)
              ((system.core.withReadings readings).reportInbound message) :=
            Core.reportInbound_quiet _ message
          refine ends ?_ rfl rfl
          rw [same, ← show _ = (system.core.withReadings readings).ledgers from reported]
          exact Core.handleBatch_endsLabels _ message
      | collects message =>
          obtain ⟨rfl, collected⟩ := performed
          refine ends ?_ rfl rfl
          rw [same]
          refine LabelsEnded.trans ?_ (.of_besidesHistory
            (Core.captureInBatch_agree _ message).of_batches)
          rw [Core.prepareMessage_ledgers]
          exact .of_same rfl rfl rfl rfl rfl
      | begins =>
          obtain ⟨rfl, enabled⟩ := performed
          obtain ⟨label, deadline, timer, begun, waits⟩ :=
            (system.core.withReadings readings).beginLabeledRequest_ledgers
          rw [LedgerEvent.apply, begun] at same
          refine ⟨orderly, ?_, kept.watches (.inr ?_)⟩
          · have handed : system.core.startLabeledRequest.2 =
                requestLabelAt system.core.nextRequestLabel := by
              rw [Core.startLabeledRequest, if_neg (not_not.mpr enabled)]
              rfl
            have named : requestLabelAt system.core.nextRequestLabel ≠ "" := by
              simp [requestLabelAt]
            simp only [labelMonitor, handed, if_neg named, same]
            exact account.begin deadline timer
          · rw [show next.core.timers .label = _ from congrArg Ledgers.labelTimer same,
              show next.core.pendingLabels = _ from congrArg Ledgers.pendingLabels same]
            exact waits
      | drops label =>
          have cancelled : action = .cancelRequestLabel label := performed
          subst cancelled
          rcases (system.core.withReadings readings).dropRequestLabel_ledgers label with
            ⟨absent, untouched⟩ | ⟨outstanding, timer, dropped, waits⟩
          · rw [LedgerEvent.apply, untouched] at same
            have absent : system.core.hasPendingRequestLabel label = false := absent
            refine ends (by rw [same]; exact .of_same rfl rfl rfl rfl rfl) rfl ?_
            simp [labelMonitor, absent]
          · rw [LedgerEvent.apply, dropped] at same
            have outstanding : system.core.hasPendingRequestLabel label = true := outstanding
            refine ⟨orderly, ?_, kept.watches (.inr ?_)⟩
            · simp only [labelMonitor, outstanding, if_true, same]
              simp only [Core.hasPendingRequestLabel, Bool.and_eq_true] at outstanding
              exact account.drop outstanding.2 timer
            · rw [show next.core.timers .label = _ from congrArg Ledgers.labelTimer same,
                show next.core.pendingLabels = _ from congrArg Ledgers.pendingLabels same]
              exact waits

/-- Labels handed out are distinct. Each of them is outstanding, was finished or was
dropped, once. The label timer is armed exactly while a label is outstanding, with the
delay from the clock when it was set to the earliest deadline. -/
theorem label_ledger {config : SessionConfig}
    (observed : labelMonitor.Observes transition Semantics.unguarded (initial config) system record) :
    record.issued.Nodup ∧
      (∀ label, system.core.ledgers.finishedLabels.count label + record.dropped.count label +
        (system.core.pendingLabels.contains label).toNat = record.issued.count label) ∧
      WaitsForEarliest (system.core.timers .label) system.core.pendingLabels record.changedAt := by
  have kept : system.LabelsKept record := by
    refine observed.invariant LabelsKept ?_ fun kept _ stepped => kept.step stepped
    exact ⟨⟨fun _ => rfl, fun reads => absurd rfl reads⟩, ⟨rfl, fun label => rfl⟩, fun label => rfl⟩
  refine ⟨?_, kept.account.settled, kept.waits⟩
  rw [kept.account.numbered]
  exact List.nodup_range.map requestLabelAt_injective

end System

end Runs

section Reference

/-- The witness runs on the reference platform. -/
local instance labelPlatform : Platform := reference

/-- A session that has the capability, two requests, and a reply to the first. -/
def labelActions : List Action :=
  connectActions ++ readActions [":s CAP * LS :message-tags labeled-response"] ++ performActions 4 ++
    readActions [":s CAP * ACK :message-tags labeled-response"] ++ performActions 1 ++
    [.startLabeledRequest, .startLabeledRequest] ++ readActions ["@label=lr1 :s ACK"]

namespace System

theorem label_ledger_answered :
    ∃ (system : System) (record : LabelRecord), record.issued = ["lr1", "lr2"] ∧
      record.issued.Nodup ∧
      (∀ label, system.core.ledgers.finishedLabels.count label + record.dropped.count label +
        (system.core.pendingLabels.contains label).toNat = record.issued.count label) ∧
      WaitsForEarliest (system.core.timers .label) system.core.pendingLabels record.changedAt := by
  have ran : (Semantics.runAll (labelMonitor.transition transition)
      (initial plaintextProfile, labelMonitor.initially) (underOneClock labelActions)).any
        (fun reached => decide (reached.2.issued = ["lr1", "lr2"])) = true := by
    decide +kernel
  obtain ⟨reached, taken, issued⟩ := exists_of_any ran
  exact ⟨reached.1, reached.2, of_decide_eq_true issued, label_ledger (.of_runAll taken)⟩

end System

end Reference

end Omairc.Session
