import Mathlib.Data.Finset.Image
import Omairc.Semantics.Budget
import Omairc.Semantics.Monitor
import Omairc.Session.BatchTrees

/-!
# The budget of the open batches

A batch opens within the limit, or as the answer to an outstanding request. Nothing ties it to
that request afterwards, so the bound that is meant, the limit and one batch for each request,
holds as long as no two batches beyond the limit claim one request, and none outlives the
request it claims.
-/

namespace Omairc.Session

open Omairc.Text Omairc.Irc

/-- A request that a batch may answer. -/
inductive BatchRequest
  | history (folded : String)
  | targets
  | label (label : String)
  deriving DecidableEq

namespace Core

variable (core : Core)

/-- The references of the open batches. -/
def openReferences : Finset String := core.batches.openBatches.keys.toFinset

/-- The requests that are outstanding. -/
def outstanding : Finset BatchRequest :=
  core.history.pending.keys.toFinset.image .history ∪
    (if core.history.targetsPending then {.targets} else ∅) ∪
      core.pendingLabels.keys.toFinset.image .label

theorem mem_openReferences (reference : String) :
    reference ∈ core.openReferences ↔ core.batches.openBatches.contains reference = true := by
  simp [openReferences, Std.TreeMap.mem_keys]

/-- A session that opened nothing has no more open references. -/
theorem openReferences_subset {changed : Core}
    (before : ∀ (key : String) (frame : OpenBatch), changed.batches.openBatches[key]? = some frame →
      ∃ earlier, core.batches.openBatches[key]? = some earlier) :
    changed.openReferences ⊆ core.openReferences := by
  intro key member
  rw [mem_openReferences, Std.TreeMap.contains_eq_isSome_getElem?] at member ⊢
  obtain ⟨frame, found⟩ := Option.isSome_iff_exists.mp member
  obtain ⟨earlier, opened⟩ := before key frame found
  rw [opened, Option.isSome_some]

theorem card_openReferences : core.openReferences.card = core.batches.openBatches.size := by
  rw [openReferences, List.toFinset_card_of_nodup Std.TreeMap.nodup_keys, Std.TreeMap.length_keys]

/-- The outstanding requests are those of the ledgers. -/
theorem outstanding_congr {changed : Core} (history : changed.history = core.history)
    (labels : changed.pendingLabels = core.pendingLabels) :
    changed.outstanding = core.outstanding := by
  rw [outstanding, outstanding, history, labels]

theorem card_outstanding_le :
    core.outstanding.card ≤
      core.history.pending.size + core.history.targetsPending.toNat + core.pendingLabels.size := by
  have keys {Value : Type} (entries : StringMap Value) : entries.keys.toFinset.card ≤ entries.size :=
    (List.toFinset_card_le _).trans_eq Std.TreeMap.length_keys
  have targets : (if core.history.targetsPending then ({.targets} : Finset BatchRequest)
      else ∅).card ≤ core.history.targetsPending.toNat := by
    cases core.history.targetsPending
    all_goals simp
  calc core.outstanding.card
      ≤ (core.history.pending.keys.toFinset.image BatchRequest.history).card +
          (if core.history.targetsPending then ({.targets} : Finset BatchRequest) else ∅).card +
            (core.pendingLabels.keys.toFinset.image BatchRequest.label).card :=
        (Finset.card_union_le _ _).trans (Nat.add_le_add_right (Finset.card_union_le _ _) _)
    _ ≤ core.history.pending.size + core.history.targetsPending.toNat + core.pendingLabels.size :=
        Nat.add_le_add (Nat.add_le_add (Finset.card_image_le.trans (keys _)) targets)
          (Finset.card_image_le.trans (keys _))

end Core

section Runs

variable [Platform]

namespace Core

variable (core : Core)

/-- The request that a BATCH line claims to answer, if it claims an outstanding one. -/
def claimedRequest (message : IrcMessage) : Option BatchRequest :=
  if replayKindFor (message.textParam 1) = some .targets && core.history.targetsPending then
    some .targets
  else if replayKindFor (message.textParam 1) = some .chat &&
      core.answersPendingHistory (message.textParam 2) then
    some (.history (core.foldChannel (message.textParam 2)))
  else if eqIgnoreAsciiCase (message.textParam 1) "labeled-response" &&
      core.hasPendingRequestLabel ((message.tagText "label").getD "") then
    some (.label ((message.tagText "label").getD ""))
  else none

/-- A batch that answers a request claims one. -/
theorem claimedRequest_ne_none {message : IrcMessage}
    (answers : core.answersOutstanding message = true) : core.claimedRequest message ≠ none := by
  unfold claimedRequest
  split_ifs with targets history label
  · exact Option.some_ne_none _
  · exact Option.some_ne_none _
  · exact Option.some_ne_none _
  · simp only [answersOutstanding, Bool.or_eq_true] at answers
    exact absurd answers (by simp [targets, history, label])

/-- What a batch claims is outstanding. -/
theorem claimedRequest_outstanding {message : IrcMessage} {request : BatchRequest}
    (claimed : core.claimedRequest message = some request) : request ∈ core.outstanding := by
  unfold claimedRequest at claimed
  split_ifs at claimed with targets history label
  all_goals obtain rfl := Option.some.inj claimed
  · simp only [Bool.and_eq_true] at targets
    simp [outstanding, targets.2]
  · simp only [Bool.and_eq_true, answersPendingHistory, historyInflight, decide_eq_true_eq]
      at history
    have pending : core.foldChannel (message.textParam 2) ∈ core.history.pending := by
      rw [Std.TreeMap.mem_iff_isSome_getElem?, history.2.1.2, Option.isSome_some]
    simp [outstanding, Std.TreeMap.mem_keys, pending]
  · simp only [Bool.and_eq_true, hasPendingRequestLabel] at label
    have pending : (message.tagText "label").getD "" ∈ core.pendingLabels :=
      Std.TreeMap.contains_iff_mem.mp label.2.2
    simp [outstanding, Std.TreeMap.mem_keys, pending]

end Core

namespace System

variable (system : System)

/-- The request that a step claims to answer by opening a reference. -/
def claimOf (action : Action) (reference : String) : Option BatchRequest :=
  (system.batchLine action).bind fun message =>
    if batchReference (message.textParam 0) = some ('+', reference) then
      system.core.claimedRequest message
    else none

end System

/-- Record, for the references that opened beyond the limit, the requests they claim. -/
def claimMonitor :
    Semantics.Monitor System (Readings × Action) (String → Option BatchRequest) where
  initially := fun _ => none
  watch record system step _ := fun reference =>
    if system.core.batches.openBatches.contains reference then record reference
    else if system.core.batches.openBatches.size < maxOpenBatches then none
    else system.claimOf step.2 reference

namespace System

variable (system : System)

/-- Whether a batch that the step opens beyond the limit claims a request of its own. -/
def claimsOwn (record : String → Option BatchRequest) (action : Action) : Bool :=
  (system.batchLine action).all fun message =>
    match batchReference (message.textParam 0) with
    | some ('+', reference) =>
        system.core.batches.openBatches.contains reference ||
          system.core.batches.openBatches.size < maxOpenBatches ||
          (system.core.claimedRequest message).isNone ||
          decide (∀ other ∈ system.core.openReferences,
            record other ≠ system.core.claimedRequest message)
    | _ => true

/-- Whether the requests that open batches claim are outstanding after the step, for the
batches that it leaves open. -/
def keepsClaims (record : String → Option BatchRequest) (label : Readings × Action) : Bool :=
  (transition system label).all fun next =>
    decide (∀ key ∈ system.core.openReferences, key ∈ next.core.openReferences →
      ∀ request ∈ record key, request ∈ next.core.outstanding)

/-- No batch opens beyond the limit for a request that an open batch claims, and no request
ends before the batch that claims it. -/
def HonorsClaims (current : System × (String → Option BatchRequest)) (label : Readings × Action) :
    Prop :=
  current.1.claimsOwn current.2 label.2 = true ∧ current.1.keepsClaims current.2 label = true

instance (current : System × (String → Option BatchRequest)) (label : Readings × Action) :
    Decidable (HonorsClaims current label) := inferInstanceAs (Decidable (_ ∧ _))

variable {system} {next : System} {config : SessionConfig}
  {record : String → Option BatchRequest} {readings : Readings} {action : Action}

/-- What a step opens: nothing new, or the reference of its BATCH line, which claims a request
or has room. -/
theorem step_opens (orderly : system.Orderly) (forest : system.core.batches.IsForest)
    (stepped : system.step readings action = some next) :
    next.core.openReferences ⊆ system.core.openReferences ∨
      ∃ message reference, system.batchLine action = some message ∧
        batchReference (message.textParam 0) = some ('+', reference) ∧
        reference ∉ system.core.openReferences ∧
        next.core.openReferences = insert reference system.core.openReferences ∧
        next.core.outstanding = system.core.outstanding ∧
        (system.core.claimedRequest message ≠ none ∨
          system.core.batches.openBatches.size < maxOpenBatches) := by
  have moves := step_moves orderly stepped
  let core := system.core.withReadings readings
  cases event : system.ledgerEvent action with
  | none =>
      rw [event] at moves
      have moves : LedgerMoves True core next.core := moves
      refine .inl (system.core.openReferences_subset fun key frame found => ?_)
      rcases moves.tended forest with tended | empty
      · exact ⟨frame, tended.kept key frame found⟩
      · rw [(empty key).1] at found
        cases found
  | some performed =>
      rw [event] at moves
      have same : next.core.ledgers = (performed.apply core).ledgers := moves
      have subset {changed : Core} (same : next.core.ledgers = changed.ledgers)
          (before : ∀ (key : String) (frame : OpenBatch),
            changed.batches.openBatches[key]? = some frame →
              ∃ earlier, core.batches.openBatches[key]? = some earlier) :
          next.core.openReferences ⊆ system.core.openReferences := by
        refine system.core.openReferences_subset fun key frame found => ?_
        rw [show next.core.batches = changed.batches from congrArg Ledgers.batches same] at found
        exact before key frame found
      cases performed with
      | batch message =>
          obtain ⟨rfl, batch⟩ := action_of_ledgerEvent event
          rw [LedgerEvent.apply, Core.handleBatch] at same
          split at same
          · exact .inl (subset same fun _ frame found => ⟨frame, found⟩)
          · exact .inl (subset same fun _ frame found =>
              ⟨frame, Core.closeBatch_opens (core.reportInbound message) found⟩)
          · rename_i sign reference other opening
            rcases (core.reportInbound message).openBatch_outcome message reference with
              before | ⟨closed, admitted, inserted⟩
            · exact .inl (subset same fun _ frame found => ⟨frame, before _ frame found⟩)
            · rw [inserted] at same
              have plus : sign = '+' := by
                refine (batchReference_eq_some opening).1.resolve_right ?_
                rintro rfl
                exact other rfl
              subst plus
              refine .inr ⟨message, reference, batch, opening, ?_, ?_, ?_, ?_⟩
              · rw [Core.mem_openReferences, Std.TreeMap.contains_eq_isSome_getElem?,
                  show system.core.batches.openBatches[reference]? = none from closed]
                exact Bool.false_ne_true
              · ext key
                rw [Finset.mem_insert, Core.mem_openReferences, Core.mem_openReferences,
                  show next.core.batches = _ from congrArg Ledgers.batches same]
                simp only [Core.ledgers_batches, Std.TreeMap.contains_insert, compared_beq_eq,
                  Bool.or_eq_true, decide_eq_true_eq]
                exact or_congr_left eq_comm
              · exact system.core.outstanding_congr (congrArg Ledgers.history same)
                  (congrArg Ledgers.pendingLabels same)
              · exact admitted.imp_left fun answers => system.core.claimedRequest_ne_none answers
      | collects message =>
          refine .inl (subset same fun key frame found => ?_)
          have prepared : (core.prepareMessage message).batches = core.batches :=
            congrArg Ledgers.batches (core.prepareMessage_ledgers message)
          rw [← prepared]
          by_cases swallowed : ((core.prepareMessage message).captureInBatch message).2 = true
          · obtain ⟨batches, captured, collects⟩ := Core.captureInBatch_outcome _ swallowed
            rw [LedgerEvent.apply, captured] at found
            have opens := collects.opens key
            rw [found] at opens
            obtain ⟨earlier, opened, -⟩ := Option.map_eq_some_iff.mp opens.symm
            exact ⟨earlier, opened⟩
          · rw [LedgerEvent.apply,
              Core.captureInBatch_of_uncaptured _ (eq_false_of_ne_true swallowed)] at found
            exact ⟨frame, found⟩
      | begins =>
          have kept : (LedgerEvent.begins.apply core).batches = core.batches :=
            (congrArg Ledgers.batches core.beginLabeledRequest_agree :)
          refine .inl (subset same fun key frame found => ?_)
          rw [kept] at found
          exact ⟨frame, found⟩
      | drops label =>
          have kept : ((LedgerEvent.drops label).apply core).batches = core.batches :=
            (congrArg Ledgers.batches (core.dropRequestLabel_agree label) :)
          refine .inl (subset same fun key frame found => ?_)
          rw [kept] at found
          exact ⟨frame, found⟩

/-- A step that honors the claims keeps the account. -/
theorem account_step {label : Readings × Action} (orderly : system.Orderly)
    (forest : system.core.batches.IsForest)
    (account : Semantics.Account maxOpenBatches system.core.openReferences
      system.core.outstanding record)
    (honors : HonorsClaims (system, record) label)
    (stepped : transition system label = some next) :
    Semantics.Account maxOpenBatches next.core.openReferences next.core.outstanding
      (claimMonitor.watch record system label next) := by
  have watched {key : String} (member : key ∈ system.core.openReferences) :
      claimMonitor.watch record system label next key = record key := by
    rw [Core.mem_openReferences] at member
    simp only [claimMonitor, if_pos member]
  rcases step_opens orderly forest stepped with
    fewer | ⟨message, reference, batch, opening, fresh, opened, same, admitted⟩
  · refine account.closes fewer (fun key member => watched (fewer member)) ?_
    intro key member request claimed
    have kept := honors.2
    simp only [keepsClaims, stepped, Option.all_some, decide_eq_true_eq] at kept
    exact kept key (fewer member) member request claimed
  · rw [opened, same]
    have closed : system.core.batches.openBatches.contains reference ≠ true :=
      mt (system.core.mem_openReferences reference).mpr fresh
    refine account.opening fresh (fun other member => watched member) ?_
    rw [system.core.card_openReferences]
    by_cases room : system.core.batches.openBatches.size < maxOpenBatches
    · refine .inl ⟨?_, room⟩
      simp only [claimMonitor, if_neg closed, if_pos room]
    · obtain ⟨request, claimed⟩ := Option.ne_none_iff_exists'.mp (admitted.resolve_right room)
      refine .inr ⟨request, ?_, system.core.claimedRequest_outstanding claimed, ?_⟩
      · simp only [claimMonitor, if_neg closed, if_neg room, claimOf, batch, Option.bind_some,
          if_pos opening, claimed]
      · have own := honors.1
        simp only [claimsOwn, batch, Option.all_some, opening, claimed, Bool.or_eq_true,
          decide_eq_true_eq, Option.isNone_some] at own
        rcases own with ((held | space) | nothing) | distinct
        · exact absurd held closed
        · exact absurd space room
        · cases nothing
        · exact distinct

end System

end Runs

section Reference

/-- The runs are on the reference platform. -/
local instance budgetPlatform : Platform := reference

/-- A session with labels and batches, and a request under the first label. -/
def labeledActions : List Action :=
  connectActions ++ readActions [":s CAP * LS :message-tags batch labeled-response"] ++
    performActions 5 ++ readActions [":s CAP * ACK :message-tags batch labeled-response"] ++
      performActions 1 ++ [.startLabeledRequest]

/-- A number of batches that claim to answer the first label. -/
def labeledBatches (count : Nat) : List Action :=
  readActions ((List.range count).map fun index =>
    "@label=lr1 :s BATCH +b" ++ toString index ++ " labeled-response")

namespace System

end System

end Reference

end Omairc.Session
