import Omairc.Session.Atomicity
import Omairc.Session.LedgerFrames
import Omairc.Session.LedgerRuns
import Omairc.Session.Reference
import Omairc.Text.Maps

/-!
# The ledger of read markers

For each folded target the last known marker, the one in flight and the one that waits
are strictly ordered, and only a target with a marker in flight has one that waits. The
last known marker moves forward alone, over reconnects too.
-/

namespace Omairc.Session

open Omairc.Text Omairc.Irc

/-- A time that is newer at millisecond precision is later. -/
theorem lt_of_readMarkerTimeAfter {left right : Instant}
    (after : readMarkerTimeAfter left right = true) : right < left := by
  simp only [readMarkerTimeAfter, readMarkerTimeMillis, gt_iff_lt, decide_eq_true_eq] at after
  by_contra reached
  have cut : left / 1000000 ≤ right / 1000000 := Int.ediv_le_ediv (by decide) (not_lt.mp reached)
  exact absurd after (not_lt.mpr (Int.mul_le_mul_of_nonneg_right cut (by decide)))

/-- The markers of each target, in order: a marker waits behind an earlier one in flight,
which is later than the last known one. -/
structure ReadMarkerLedger.Ordered (markers : ReadMarkerLedger) : Prop where
  waits : ∀ (folded : String) (pending : ReadMarkerQueue), markers.pending[folded]? = some pending →
    ∃ sent, markers.inFlight[folded]? = some sent ∧ sent < pending.timestamp
  flies : ∀ (folded : String) (sent known : Instant), markers.inFlight[folded]? = some sent →
    markers.lastKnown[folded]? = some known → known < sent

/-- The last known marker of every target stays or moves forward. -/
def ReadMarkerLedger.Forward (earlier later : ReadMarkerLedger) : Prop :=
  ∀ (folded : String) (known : Instant), earlier.lastKnown[folded]? = some known →
    ∃ moved, later.lastKnown[folded]? = some moved ∧ known ≤ moved

namespace ReadMarkerLedger.Forward

variable {first second third : ReadMarkerLedger}

theorem of_same (same : second.lastKnown = first.lastKnown) : Forward first second := by
  intro folded known found
  exact ⟨known, by rw [same]; exact found, le_refl known⟩

theorem trans (earlier : Forward first second) (later : Forward second third) :
    Forward first third := by
  intro folded known found
  obtain ⟨moved, found, forward⟩ := earlier folded known found
  obtain ⟨last, found, onward⟩ := later folded moved found
  exact ⟨last, found, forward.trans onward⟩

end ReadMarkerLedger.Forward

section Runs

variable [Platform]

/-- The line that sends a marker. -/
def Core.readMarkerLine (core : Core) (marker : ReadMarkerQueue) : Bytes :=
  utf8 (core.readMarkerCommand ++ " " ++ marker.target ++ " timestamp=" ++
    formatReadMarkerTime marker.timestamp) ++ crlf

/-- What flushing a target does: nothing while a marker is in flight, and otherwise the
waiting marker is spent, and sent if it is still later than the last known one. -/
inductive FlushOutcome (core : Core) (folded : String) : Core → Prop
  | busy {sent : Instant} (flying : core.readMarkers.inFlight[folded]? = some sent) :
      FlushOutcome core folded core
  | rests (free : core.readMarkers.inFlight[folded]? = none)
      (idle : core.readMarkers.pending[folded]? = none) : FlushOutcome core folded core
  | spends (free : core.readMarkers.inFlight[folded]? = none) :
      FlushOutcome core folded
        { core with readMarkers.pending := core.readMarkers.pending.erase folded }
  | sends {marker : ReadMarkerQueue} (free : core.readMarkers.inFlight[folded]? = none)
      (waiting : core.readMarkers.pending[folded]? = some marker)
      (later : ∀ known, core.readMarkers.lastKnown[folded]? = some known →
        known < marker.timestamp) :
      FlushOutcome core folded
        { core.sendLine (core.readMarkerLine marker) with
          readMarkers :=
            { core.readMarkers with
              pending := core.readMarkers.pending.erase folded
              inFlight := core.readMarkers.inFlight.insert folded marker.timestamp } }

namespace Core

variable (core : Core)

omit [Platform] in
/-- A line that ends in CR LF is reported and written. -/
theorem sendLine_crlf (command : Bytes) :
    core.sendLine (command ++ crlf) =
      (core.emit (.outbound core.networkId (command ++ crlf) core.channelTypes core.now)).queue
        (.write (command ++ crlf)) := by
  rw [sendLine, if_neg (by simp [crlf])]

theorem flushReadMarkerSet_outcome (folded : String) :
    FlushOutcome core folded (core.flushReadMarkerSet folded) := by
  unfold flushReadMarkerSet
  split
  · rename_i flying
    rw [Std.TreeMap.contains_eq_isSome_getElem?, Option.isSome_iff_exists] at flying
    exact .busy flying.choose_spec
  · rename_i free
    rw [Std.TreeMap.contains_eq_isSome_getElem?, Bool.not_eq_true, Option.isSome_eq_false_iff,
      Option.isNone_iff_eq_none] at free
    split
    · rename_i idle
      exact .rests free idle
    · rename_i marker waiting
      simp only
      split
      · exact .spends free
      · rename_i fresh
        simp only [Bool.or_eq_true, decide_eq_true_eq, not_or, Bool.not_eq_true,
          Option.any_eq_false] at fresh
        rw [sendCommand_eq]
        split
        · rename_i refused result
          split at result
          · cases result
          · obtain rfl := congrArg Prod.fst result
            exact .spends free
        · rename_i sent result
          split at result
          · obtain rfl := congrArg Prod.fst result
            have later : ∀ known, core.readMarkers.lastKnown[folded]? = some known →
                known < marker.timestamp := by
              intro known found
              have late := fresh.1
              rw [found] at late
              exact lt_of_readMarkerTimeAfter (by simpa using late)
            have outcome := FlushOutcome.sends free waiting later
            rw [readMarkerLine, sendLine_crlf] at outcome
            rw [labeledCommand, if_pos rfl, sendLine_crlf]
            exact outcome
          · cases result

end Core

/-! ## What an operation sends -/

/-- The markers that an operation sends: each is written, for no target twice, is in flight
afterwards, and is later than the last known marker of its target. -/
structure MarkersSent (core changed : Core) (sent : List (String × ReadMarkerQueue)) : Prop where
  written : changed.effects =
    core.effects ++ sent.map fun entry => .write (core.readMarkerLine entry.2)
  single : (sent.map Prod.fst).Nodup
  flying : ∀ entry ∈ sent, changed.readMarkers.inFlight[entry.1]? = some entry.2.timestamp
  later : ∀ entry ∈ sent, ∀ known, changed.readMarkers.lastKnown[entry.1]? = some known →
    known < entry.2.timestamp

/-- What releasing and flushing some targets does: it sends markers of these targets alone,
and changes no last known marker. -/
structure TargetsFlushed (targets : List String) (core changed : Core)
    (sent : List (String × ReadMarkerQueue)) : Prop extends MarkersSent core changed sent where
  within : ∀ entry ∈ sent, entry.1 ∈ targets
  others : ∀ folded ∉ targets,
    changed.readMarkers.inFlight[folded]? = core.readMarkers.inFlight[folded]?
  known : changed.readMarkers.lastKnown = core.readMarkers.lastKnown
  token : changed.readMarkerToken = core.readMarkerToken

variable {core middle changed : Core} {sent : List (String × ReadMarkerQueue)}

/-- An operation that writes nothing sends no marker. -/
theorem MarkersSent.of_silent (effects : changed.effects = core.effects) :
    MarkersSent core changed [] :=
  ⟨by simp [effects], List.nodup_nil, by simp, by simp⟩

/-- What came before the markers were sent does not matter, if it wrote nothing. -/
theorem MarkersSent.after (second : MarkersSent middle changed sent)
    (effects : middle.effects = core.effects)
    (token : middle.readMarkerToken = core.readMarkerToken) : MarkersSent core changed sent where
  written := by
    rw [second.written, effects]
    simp only [Core.readMarkerLine, Core.readMarkerCommand, token]
  single := second.single
  flying := second.flying
  later := second.later

/-- What is reported after the markers were sent does not matter. -/
theorem MarkersSent.before (first : MarkersSent core middle sent)
    (effects : changed.effects = middle.effects)
    (markers : changed.readMarkers = middle.readMarkers) : MarkersSent core changed sent where
  written := effects.trans first.written
  single := first.single
  flying := by
    rw [markers]
    exact first.flying
  later := by
    rw [markers]
    exact first.later

/-- Flushing a target sends at most its own marker. -/
theorem FlushOutcome.flushed {folded : String} (outcome : FlushOutcome core folded changed) :
    ∃ sent, TargetsFlushed [folded] core changed sent := by
  have silent : TargetsFlushed [folded] core core [] :=
    ⟨.of_silent rfl, by simp, fun _ _ => rfl, rfl, rfl⟩
  cases outcome with
  | busy flying => exact ⟨[], silent⟩
  | rests free idle => exact ⟨[], silent⟩
  | spends free =>
      exact ⟨[], ⟨.of_silent rfl, by simp, fun _ _ => rfl, rfl, rfl⟩⟩
  | @sends marker free waiting later =>
      have written : (core.sendLine (core.readMarkerLine marker)).effects =
          core.effects ++ [.write (core.readMarkerLine marker)] := by
        rw [Core.readMarkerLine, Core.sendLine_crlf]
        rfl
      have token : (core.sendLine (core.readMarkerLine marker)).readMarkerToken =
          core.readMarkerToken := by
        rw [Core.readMarkerLine, Core.sendLine_crlf]
        rfl
      refine ⟨[(folded, marker)], ⟨⟨written, by simp, ?_, ?_⟩, by simp, ?_, rfl, token⟩⟩
      · intro entry listed
        rw [List.mem_singleton.mp listed]
        simp
      · intro entry listed known found
        rw [List.mem_singleton.mp listed] at found ⊢
        exact later known found
      · intro other outside
        have differ : folded ≠ other := fun same => outside (by simp [same])
        simp [Std.TreeMap.getElem?_insert, differ]

namespace Core

variable (core : Core)

/-- Releasing a target sends at most its own marker. -/
theorem releaseReadMarker_sent (folded : String) :
    ∃ sent, TargetsFlushed [folded] core (core.releaseReadMarker folded) sent := by
  obtain ⟨sent, flushed⟩ := (flushReadMarkerSet_outcome
    { core with readMarkers.inFlight := core.readMarkers.inFlight.erase folded } folded).flushed
  refine ⟨sent, ⟨flushed.toMarkersSent.after rfl rfl, flushed.within, ?_, flushed.known,
    flushed.token⟩⟩
  intro other outside
  have differ : folded ≠ other := fun same => outside (by simp [same])
  refine (flushed.others other outside).trans ?_
  simp [Std.TreeMap.getElem?_erase, differ]

/-- Releasing targets one after another sends at most one marker of each. -/
theorem foldl_releaseReadMarker_sent {targets : List String} (distinct : targets.Nodup)
    (core : Core) :
    ∃ sent, TargetsFlushed targets core (targets.foldl releaseReadMarker core) sent := by
  induction targets generalizing core with
  | nil => exact ⟨[], ⟨.of_silent rfl, by simp, fun _ _ => rfl, rfl, rfl⟩⟩
  | cons folded rest inductionHypothesis =>
      obtain ⟨fresh, distinct⟩ := List.nodup_cons.mp distinct
      obtain ⟨first, released⟩ := core.releaseReadMarker_sent folded
      obtain ⟨others, flushed⟩ := inductionHypothesis distinct (core.releaseReadMarker folded)
      have own (entry : String × ReadMarkerQueue) (listed : entry ∈ first) : entry.1 = folded :=
        List.mem_singleton.mp (released.within entry listed)
      have lines (marker : ReadMarkerQueue) :
          (core.releaseReadMarker folded).readMarkerLine marker = core.readMarkerLine marker := by
        simp only [readMarkerLine, readMarkerCommand, released.token]
      refine ⟨first ++ others, ⟨⟨?_, ?_, ?_, ?_⟩, ?_, ?_, ?_, ?_⟩⟩
      · rw [List.foldl_cons, flushed.written, released.written, List.map_append, List.append_assoc]
        simp only [lines]
      · rw [List.map_append, List.nodup_append]
        refine ⟨released.single, flushed.single, ?_⟩
        intro key listed other later same
        obtain ⟨entry, member, rfl⟩ := List.mem_map.mp listed
        obtain ⟨next, following, rfl⟩ := List.mem_map.mp later
        rw [own entry member] at same
        exact fresh (same ▸ flushed.within next following)
      · intro entry listed
        rw [List.foldl_cons]
        rcases List.mem_append.mp listed with earlier | later
        · rw [flushed.others entry.1 (by rw [own entry earlier]; exact fresh)]
          exact released.flying entry earlier
        · exact flushed.flying entry later
      · intro entry listed known found
        rw [List.foldl_cons] at found
        rcases List.mem_append.mp listed with earlier | later
        · rw [flushed.known] at found
          exact released.later entry earlier known found
        · exact flushed.later entry later known found
      · intro entry listed
        rcases List.mem_append.mp listed with earlier | later
        · rw [own entry earlier]
          exact List.mem_cons_self
        · exact List.mem_cons_of_mem _ (flushed.within entry later)
      · intro other outside
        obtain ⟨differ, outside⟩ := not_or.mp (mt List.mem_cons.mpr outside)
        rw [List.foldl_cons, flushed.others other outside, released.others other (by simp [differ])]
      · rw [List.foldl_cons, flushed.known, released.known]
      · rw [List.foldl_cons, flushed.token, released.token]

end Core

/-! ## The order of the markers -/

/-- The markers are in order, but a marker of one target may wait with none in flight. -/
structure ReadMarkerLedger.OrderedBut (folded : String) (markers : ReadMarkerLedger) : Prop where
  waits : ∀ (key : String) (pending : ReadMarkerQueue), markers.pending[key]? = some pending →
    (∃ sent, markers.inFlight[key]? = some sent ∧ sent < pending.timestamp) ∨
      key = folded ∧ markers.inFlight[key]? = none
  flies : ∀ (key : String) (sent known : Instant), markers.inFlight[key]? = some sent →
    markers.lastKnown[key]? = some known → known < sent

/-- Flushing the target whose marker may wait restores the order. -/
theorem FlushOutcome.ordered {folded : String} (outcome : FlushOutcome core folded changed)
    (order : core.readMarkers.OrderedBut folded) : changed.readMarkers.Ordered := by
  cases outcome with
  | busy flying =>
      refine ⟨fun key pending waiting => ?_, order.flies⟩
      rcases order.waits key pending waiting with behind | ⟨rfl, free⟩
      · exact behind
      · rw [flying] at free
        cases free
  | rests free idle =>
      refine ⟨fun key pending waiting => ?_, order.flies⟩
      rcases order.waits key pending waiting with behind | ⟨rfl, free⟩
      · exact behind
      · rw [idle] at waiting
        cases waiting
  | spends free =>
      refine ⟨fun key pending waiting => ?_, order.flies⟩
      simp only [Std.TreeMap.getElem?_erase] at waiting
      split at waiting
      · cases waiting
      · rename_i differ
        rcases order.waits key pending waiting with behind | ⟨rfl, -⟩
        · exact behind
        · simp at differ
  | @sends marker free waiting later =>
      refine ⟨fun key pending waiting => ?_, fun key sent known flying found => ?_⟩
      · simp only [Std.TreeMap.getElem?_erase] at waiting
        split at waiting
        · cases waiting
        · rename_i differ
          simp only [Std.TreeMap.getElem?_insert, if_neg differ]
          rcases order.waits key pending waiting with behind | ⟨rfl, -⟩
          · exact behind
          · simp at differ
      · simp only [Std.TreeMap.getElem?_insert] at flying
        split at flying
        · rename_i same
          obtain rfl : folded = key := by simpa using same
          obtain rfl := Option.some.inj flying
          exact later known found
        · exact order.flies key sent known flying found

namespace Core

variable (core : Core)

/-- Releasing a target keeps the order, also when the last known marker of the target
overtook the one in flight. -/
theorem releaseReadMarker_ordered {folded : String}
    (waits : ∀ (key : String) (pending : ReadMarkerQueue), core.readMarkers.pending[key]? = some pending →
      ∃ sent, core.readMarkers.inFlight[key]? = some sent ∧ sent < pending.timestamp)
    (flies : ∀ (key : String), key ≠ folded → ∀ sent known,
      core.readMarkers.inFlight[key]? = some sent → core.readMarkers.lastKnown[key]? = some known →
        known < sent) :
    (core.releaseReadMarker folded).readMarkers.Ordered := by
  refine (flushReadMarkerSet_outcome
    { core with readMarkers.inFlight := core.readMarkers.inFlight.erase folded } folded).ordered
    ⟨fun key pending waiting => ?_, fun key sent known flying found => ?_⟩
  · simp only [Std.TreeMap.getElem?_erase]
    split
    · rename_i same
      exact .inr ⟨by simpa using (show folded = key by simpa using same).symm, rfl⟩
    · exact .inl (waits key pending waiting)
  · simp only [Std.TreeMap.getElem?_erase] at flying
    split at flying
    · cases flying
    · rename_i differ
      exact flies key (fun same => differ (by simp [same])) sent known flying found

omit [Platform] in
/-- Moving the last known marker of a target forward. -/
theorem advanceLastKnown_markers (folded : String) (time : Instant) :
    ∃ lastKnown, core.advanceLastKnown folded time =
        { core with readMarkers := { core.readMarkers with lastKnown } } ∧
      (∀ key, key ≠ folded → lastKnown[key]? = core.readMarkers.lastKnown[key]?) ∧
      (∀ known, lastKnown[folded]? = some known →
        known = time ∨ core.readMarkers.lastKnown[folded]? = some known) ∧
      core.readMarkers.Forward { core.readMarkers with lastKnown } := by
  unfold advanceLastKnown
  split
  · exact ⟨core.readMarkers.lastKnown, rfl, fun _ _ => rfl, fun _ found => .inr found,
      .of_same rfl⟩
  · rename_i newer
    refine ⟨core.readMarkers.lastKnown.insert folded time, rfl, ?_, ?_, ?_⟩
    · intro key differ
      simp [Std.TreeMap.getElem?_insert, Ne.symm differ]
    · intro known found
      simp at found
      exact .inl found.symm
    · intro key known found
      simp only [Std.TreeMap.getElem?_insert]
      split
      · rename_i same
        obtain rfl : folded = key := by simpa using same
        rw [found] at newer
        exact ⟨time, rfl, le_of_lt (lt_of_readMarkerTimeAfter (by simpa using newer))⟩
      · exact ⟨known, found, le_refl known⟩

/-- The echo of a marker keeps the order, moves its target forward, and sends at most the
marker that waits. -/
theorem applyReadMarkerEcho_markers (target folded : String) (echoed : Instant)
    (order : core.readMarkers.Ordered) :
    (core.applyReadMarkerEcho target folded echoed).readMarkers.Ordered ∧
      core.readMarkers.Forward (core.applyReadMarkerEcho target folded echoed).readMarkers := by
  obtain ⟨lastKnown, advanced, others, own, forward⟩ := core.advanceLastKnown_markers folded echoed
  unfold applyReadMarkerEcho
  simp only [advanced]
  generalize marked : ({ core with readMarkers := { core.readMarkers with lastKnown } }.emit
    (.readMarkerReceived core.networkId target (some echoed))) = told
  have markers : told.readMarkers = { core.readMarkers with lastKnown } := by
    rw [← marked]
    rfl
  have elsewhere (key : String) (differ : key ≠ folded) (sent known : Instant)
      (flying : core.readMarkers.inFlight[key]? = some sent)
      (found : lastKnown[key]? = some known) : known < sent := by
    rw [others key differ] at found
    exact order.flies key sent known flying found
  rw [show told.readMarkers.inFlight = core.readMarkers.inFlight by rw [markers]]
  split
  · rename_i free
    refine ⟨?_, by rw [markers]; exact forward⟩
    rw [markers]
    refine ⟨order.waits, fun key sent known flying found => ?_⟩
    by_cases same : key = folded
    · subst same
      rw [free] at flying
      cases flying
    · exact elsewhere key same sent known flying found
  · rename_i inFlight flying
    split
    · rename_i ahead
      refine ⟨?_, by rw [markers]; exact forward⟩
      rw [markers]
      refine ⟨order.waits, fun key sent known flies found => ?_⟩
      by_cases same : key = folded
      · subst same
        obtain rfl := Option.some.inj (flying.symm.trans flies)
        rcases own known found with rfl | before
        · exact lt_of_readMarkerTimeAfter ahead
        · exact order.flies key inFlight known flying before
      · exact elsewhere key same sent known flies found
    · have dropped : ∀ other : Core, other = told ∨ other =
          { told with readMarkers.pending := told.readMarkers.pending.erase folded } →
          (other.releaseReadMarker folded).readMarkers.Ordered ∧
            core.readMarkers.Forward (other.releaseReadMarker folded).readMarkers := by
        intro other shape
        have flights : other.readMarkers.inFlight = core.readMarkers.inFlight := by
          rcases shape with rfl | rfl
          all_goals rw [← marked]; rfl
        have known : other.readMarkers.lastKnown = lastKnown := by
          rcases shape with rfl | rfl
          all_goals rw [← marked]; rfl
        have left (key : String) (pending : ReadMarkerQueue)
            (waiting : other.readMarkers.pending[key]? = some pending) :
            core.readMarkers.pending[key]? = some pending := by
          rcases shape with rfl | rfl
          · rw [markers] at waiting
            exact waiting
          · simp only [markers, Std.TreeMap.getElem?_erase] at waiting
            split at waiting
            · cases waiting
            · exact waiting
        obtain ⟨sent, released⟩ := other.releaseReadMarker_sent folded
        refine ⟨other.releaseReadMarker_ordered ?_ ?_, ?_⟩
        · intro key pending waiting
          rw [flights]
          exact order.waits key pending (left key pending waiting)
        · intro key differ sent latest flying found
          rw [flights] at flying
          rw [known] at found
          exact elsewhere key differ sent latest flying found
        · intro key latest found
          rw [released.known, known]
          exact forward key latest found
      refine dropped _ ?_
      split
      · exact .inr (by rw [markers])
      · exact .inl rfl

/-- The echo of a marker sends at most the marker that waits. -/
theorem applyReadMarkerEcho_sent (target folded : String) (echoed : Instant) :
    ∃ sent, MarkersSent core (core.applyReadMarkerEcho target folded echoed) sent := by
  obtain ⟨lastKnown, advanced, -⟩ := core.advanceLastKnown_markers folded echoed
  unfold applyReadMarkerEcho
  simp only [advanced]
  split
  · exact ⟨[], .of_silent rfl⟩
  · split
    · exact ⟨[], .of_silent rfl⟩
    · split
      · obtain ⟨sent, released⟩ := releaseReadMarker_sent _ folded
        exact ⟨sent, released.toMarkersSent.after rfl rfl⟩
      · obtain ⟨sent, released⟩ := releaseReadMarker_sent _ folded
        exact ⟨sent, released.toMarkersSent.after rfl rfl⟩

end Core

/-- An operation of the read markers keeps their order and moves forward. -/
theorem MarkerMove.keeps (move : MarkerMove core changed) (order : core.readMarkers.Ordered) :
    changed.readMarkers.Ordered ∧ core.readMarkers.Forward changed.readMarkers := by
  have still : core.readMarkers.Ordered ∧ core.readMarkers.Forward core.readMarkers :=
    ⟨order, .of_same rfl⟩
  have release (core : Core) (order : core.readMarkers.Ordered) (folded : String) :
      (core.releaseReadMarker folded).readMarkers.Ordered ∧
        core.readMarkers.Forward (core.releaseReadMarker folded).readMarkers := by
    obtain ⟨sent, released⟩ := core.releaseReadMarker_sent folded
    exact ⟨core.releaseReadMarker_ordered order.waits fun key _ => order.flies key,
      .of_same released.known⟩
  have releases (targets : List String) (core : Core) (order : core.readMarkers.Ordered) :
      (targets.foldl Core.releaseReadMarker core).readMarkers.Ordered ∧
        core.readMarkers.Forward (targets.foldl Core.releaseReadMarker core).readMarkers := by
    induction targets generalizing core with
    | nil => exact ⟨order, .of_same rfl⟩
    | cons folded rest inductionHypothesis =>
        obtain ⟨released, forward⟩ := release core order folded
        obtain ⟨ordered, onward⟩ := inductionHypothesis _ released
        exact ⟨ordered, forward.trans onward⟩
  cases move with
  | delivers message =>
      unfold Core.deliverReadMarker
      simp only
      split_ifs
      · exact still
      · exact still
      · exact still
      · split
        · exact release core order _
        · exact still
        · exact core.applyReadMarkerEcho_markers _ _ _ order
  | fails message =>
      unfold Core.handleReadMarkerFail
      simp only
      split_ifs
      · exact still
      · exact releases _ core order
      · exact still
      · exact release core order _
  | queues target time =>
      unfold Core.queueReadMarkerSet
      simp only
      split_ifs with unable known flying waiting
      any_goals exact still
      have outcome := Core.flushReadMarkerSet_outcome
        { core with
          readMarkers.pending := core.readMarkers.pending.insert
            (core.foldReadMarkerTarget target) ⟨target, readMarkerTimeMillis time⟩ }
        (core.foldReadMarkerTarget target)
      obtain ⟨sent, flushed⟩ := outcome.flushed
      refine ⟨outcome.ordered ⟨fun key pending found => ?_, order.flies⟩, .of_same flushed.known⟩
      simp only [Std.TreeMap.getElem?_insert] at found
      split at found
      · rename_i same
        obtain rfl : core.foldReadMarkerTarget target = key := by simpa using same
        obtain rfl := Option.some.inj found
        cases inFlight : core.readMarkers.inFlight[core.foldReadMarkerTarget target]? with
        | none => exact .inr ⟨rfl, rfl⟩
        | some sent =>
            rw [inFlight] at flying
            exact .inl ⟨sent, rfl, lt_of_readMarkerTimeAfter (by simpa using flying)⟩
      · exact .inl (order.waits key pending found)

/-- An operation of the read markers sends markers that are in flight afterwards and later
than the last known ones. -/
theorem MarkerMove.sends (move : MarkerMove core changed) : ∃ sent, MarkersSent core changed sent := by
  have none : ∃ sent, MarkersSent core core sent := ⟨[], .of_silent rfl⟩
  cases move with
  | delivers message =>
      unfold Core.deliverReadMarker
      simp only
      split_ifs
      · exact none
      · exact none
      · exact ⟨[], .of_silent rfl⟩
      · split
        · obtain ⟨sent, released⟩ := core.releaseReadMarker_sent
            (core.foldReadMarkerTarget (message.textParam 0))
          exact ⟨sent, released.toMarkersSent.before rfl rfl⟩
        · exact ⟨[], .of_silent rfl⟩
        · exact core.applyReadMarkerEcho_sent _ _ _
  | fails message =>
      unfold Core.handleReadMarkerFail
      simp only
      split_ifs
      · exact none
      · have distinct : core.readMarkers.inFlight.keys.Nodup := Std.TreeMap.nodup_keys
        obtain ⟨sent, released⟩ := Core.foldl_releaseReadMarker_sent distinct core
        exact ⟨sent, released.toMarkersSent.before rfl rfl⟩
      · exact none
      · obtain ⟨sent, released⟩ := core.releaseReadMarker_sent
          (core.foldReadMarkerTarget (message.textParam 2))
        exact ⟨sent, released.toMarkersSent.before rfl rfl⟩
  | queues target time =>
      unfold Core.queueReadMarkerSet
      simp only
      split_ifs
      any_goals exact none
      obtain ⟨sent, flushed⟩ := (Core.flushReadMarkerSet_outcome
        { core with
          readMarkers.pending := core.readMarkers.pending.insert
            (core.foldReadMarkerTarget target) ⟨target, readMarkerTimeMillis time⟩ }
        (core.foldReadMarkerTarget target)).flushed
      exact ⟨sent, flushed.toMarkersSent.after rfl rfl⟩

/-- Keeping the order of the markers and moving forward. -/
def MarkersKept (earlier later : Ledgers) : Prop :=
  earlier.readMarkers.Ordered → later.readMarkers.Ordered ∧
    earlier.readMarkers.Forward later.readMarkers

namespace MarkersKept

variable {first second third : Ledgers}

omit [Platform] in
theorem of_same (same : second.readMarkers = first.readMarkers) : MarkersKept first second := by
  intro order
  rw [same]
  exact ⟨order, .of_same rfl⟩

omit [Platform] in
theorem trans (earlier : MarkersKept first second) (later : MarkersKept second third) :
    MarkersKept first third := by
  intro order
  obtain ⟨ordered, forward⟩ := earlier order
  obtain ⟨last, onward⟩ := later ordered
  exact ⟨last, forward.trans onward⟩

omit [Platform] in
theorem of_besidesHistory (agree : second.besidesHistory = first.besidesHistory) :
    MarkersKept first second := by
  simp only [Ledgers.besidesHistory, Ledgers.mk.injEq] at agree
  exact .of_same agree.2.2.1

omit [Platform] in
theorem of_besidesLabels (agree : second.besidesLabels = first.besidesLabels) :
    MarkersKept first second := by
  simp only [Ledgers.besidesLabels, Ledgers.mk.injEq] at agree
  exact .of_same agree.2.2.1

end MarkersKept

/-- Every move of a line keeps the markers in order. -/
theorem LineMove.keepsMarkers {unsettled : Prop} (move : LineMove unsettled core changed) :
    MarkersKept core.ledgers changed.ledgers := by
  cases move with
  | quiet change => exact .of_same (congrArg Ledgers.readMarkers change)
  | adopts features allowed change =>
      rw [change]
      exact .of_same rfl
  | history move => exact .of_besidesHistory move.agree
  | marker move => exact move.keeps
  | label move => exact .of_besidesLabels move.agree

/-- Every move of the ledgers keeps the markers in order. -/
theorem LedgerMove.keepsMarkers {unsettled : Prop} (move : LedgerMove unsettled core changed) :
    MarkersKept core.ledgers changed.ledgers := by
  cases move with
  | line move => exact move.keepsMarkers
  | resets =>
      intro order
      rw [core.resetForConnection_ledgers]
      exact ⟨⟨by simp, by simp⟩, .of_same rfl⟩

theorem LedgerMoves.keepsMarkers {unsettled : Prop} (moves : LedgerMoves unsettled core changed) :
    MarkersKept core.ledgers changed.ledgers := by
  induction moves with
  | refl => exact .of_same rfl
  | tail prior move inductionHypothesis => exact inductionHypothesis.trans move.keepsMarkers

/-- Batches and the beginning and dropping of labels leave the markers. -/
theorem LedgerEvent.keepsMarkers (core : Core) (event : LedgerEvent) :
    MarkersKept core.ledgers (event.apply core).ledgers := by
  cases event with
  | batch message =>
      refine (MarkersKept.of_same (congrArg Ledgers.readMarkers
        (core.reportInbound_quiet message))).trans ?_
      rw [LedgerEvent.apply, Core.handleBatch]
      split
      · exact .of_same rfl
      · rename_i reference closing
        obtain ⟨tended, removed, finished, ended, delivered⟩ :=
          (core.reportInbound message).closeBatch_agree reference
        refine (MarkersKept.of_besidesHistory removed).trans
          (MarkersKept.trans ?_ (.of_besidesHistory delivered))
        rcases ended with rfl | move
        · exact .of_same rfl
        · exact .of_besidesLabels move.agree
      · exact .of_besidesHistory (Core.openBatch_agree _ message _)
  | collects message =>
      refine (MarkersKept.of_same (congrArg Ledgers.readMarkers
        (core.prepareMessage_ledgers message))).trans ?_
      exact .of_besidesHistory (Core.captureInBatch_agree _ message).of_batches
  | begins => exact .of_besidesLabels core.beginLabeledRequest_agree
  | drops label => exact .of_besidesLabels (core.dropRequestLabel_agree label)

namespace System

variable {system next : System} {config : SessionConfig}

/-- A step keeps the markers in order. -/
theorem step_keepsMarkers {readings : Readings} {action : Action} (orderly : system.Orderly)
    (stepped : system.step readings action = some next) :
    MarkersKept system.core.ledgers next.core.ledgers := by
  have moves := step_moves orderly stepped
  have read : MarkersKept system.core.ledgers (system.core.withReadings readings).ledgers :=
    .of_same rfl
  split at moves
  · exact read.trans moves.keepsMarkers
  · rename_i event found
    rw [show next.core.ledgers = _ from moves]
    exact read.trans (event.keepsMarkers _)

end System

end Runs

section Reference

/-- The witness runs on the reference platform. -/
local instance markerPlatform : Platform := reference

/-- A registered session with the capability that read two messages of a channel. -/
def markerActions : List Action :=
  connectActions ++ readActions [":s CAP * LS :draft/read-marker"] ++ performActions 3 ++
    readActions [":s CAP * ACK :draft/read-marker", ":s 001 nick :hi"] ++ performActions 1 ++
    [.queueReadMarkerSet "#a" 1000000000, .perform, .queueReadMarkerSet "#a" 2000000000]

namespace System

end System

end Reference

end Omairc.Session
