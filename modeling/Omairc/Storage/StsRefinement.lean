import Omairc.Semantics.Execution
import Omairc.Session.Reference
import Omairc.Storage.StsSteps

/-!
# The file cache against the memory cache

The cache in the file runs beside the one in memory under the same calls. What it answers
was stored and is live, whatever fails. It answers what the memory cache answers when the
reads of each call agree, and exactly that when every read and write succeeds.
-/

namespace Omairc.Storage

open Omairc.Session Omairc.Semantics Omairc.Text

/-- The cache in the file beside the one in memory, with the policies that were stored since
the last clear that could read and write the file. -/
structure Shelf where
  store : IniStsStore
  reference : Policies
  since : String → Set StsCached
  clock : Instant

namespace Shelf

/-- A call on both caches, or a restart of the process. -/
inductive Label
  | store (access : Access) (host : String) (port : UInt16) (durationSeconds : Int)
      (now : Instant)
  | clear (access : Access) (host : String) (now : Instant)
  | lookup (access : Access) (host : String) (now : Instant)
  | reload

variable [Platform]

/-- The stored policies after a clear. -/
def cleared (since : String → Set StsCached) (access : Access) (host : String) :
    String → Set StsCached :=
  match stsGroupKey host with
  | none => since
  | some key =>
      if access.loads ∧ access.probes ∧ access.writes then Function.update since key ∅ else since

/-- The stored policies after a store. -/
def stored (since : String → Set StsCached) (access : Access) (host : String) (port : UInt16)
    (durationSeconds : Int) (now : Instant) : String → Set StsCached :=
  if durationSeconds = 0 then cleared since access host
  else
    match stsGroupKey host with
    | none => since
    | some key =>
        if port = 0 then since
        else
          Function.update since key
            (insert (incomingPolicy port durationSeconds (timestamp now)) (since key))

/-- One step. The clock does not go back, and a duration is a signed 64-bit number. -/
def step (shelf : Shelf) : Label → Option Shelf
  | .store access host port durationSeconds now =>
      if shelf.clock ≤ now ∧ -(2 ^ 63) ≤ durationSeconds ∧ durationSeconds < 2 ^ 63 then
        some
          { store := shelf.store.store access host port durationSeconds now
            reference := MemoryStsStore.store shelf.reference host port durationSeconds now
            since := stored shelf.since access host port durationSeconds now
            clock := now }
      else none
  | .clear access host now =>
      if shelf.clock ≤ now then
        some
          { store := shelf.store.clear access host now
            reference := MemoryStsStore.clear shelf.reference host
            since := cleared shelf.since access host
            clock := now }
      else none
  | .lookup access host now =>
      if shelf.clock ≤ now then
        some
          { shelf with
            store := (shelf.store.lookup access host now).1
            reference := (MemoryStsStore.lookup shelf.reference host now).1
            clock := now }
      else none
  | .reload => some { shelf with store := shelf.store.reload }

/-- A process that finds a file. The policies of the file count as stored. -/
def start (file : StsFile) (reference : Policies) (clock : Instant) : Shelf where
  store := { file }
  reference
  since key := { cached | readPolicy file.settings key = some cached }
  clock

end Shelf

section Answers

variable {allowed : String → StsCached → Prop} {store : IniStsStore} {access : Access}
  {nowUnix : Int} {key : String}

/-- The policy of a view is the one that was read. -/
theorem fileView_held (file : StsFile) (settings : Settings) :
    (fileView access file settings key).held =
      if access.probes then readPolicy settings key else none := by
  unfold fileView
  cases access.probes with
  | false => rfl
  | true =>
      rw [if_neg (by decide), if_pos rfl]
      generalize readPolicy settings key = read
      cases read with
      | some policy => rfl
      | none =>
          cases file with
          | missing => rfl
          | malformed _ => rfl
          | wellFormed _ =>
              cases settings.contains key with
              | false => rfl
              | true => rfl

/-- A weaker condition holds too. -/
theorem Within.mono (within : Within allowed store) {weaker : String → StsCached → Prop}
    (implies : ∀ key cached, allowed key cached → weaker key cached) : Within weaker store :=
  ⟨fun key held found => (within.memory key held found).imp_left (implies key held.cached),
    fun key cached found => implies key cached (within.file key cached found)⟩

/-- A restart keeps the condition. -/
theorem Within.reload (within : Within allowed store) : Within allowed store.reload := by
  refine ⟨fun key held found => ?_, within.file⟩
  rw [IniStsStore.reload, Std.TreeMap.getElem?_emptyc] at found
  cases found

variable [Platform] {host : String} {now : Instant}

/-- A lookup keeps the condition, and answers with a live policy that meets it. -/
theorem Within.lookup (within : Within allowed store) (access : Access) (host : String)
    (now : Instant) :
    Within allowed (store.lookup access host now).1 ∧
      ∀ cached, (store.lookup access host now).2 = some cached →
        timestamp now < cached.expiryEpochSeconds ∧
          ∃ key, stsGroupKey host = some key ∧ allowed key cached := by
  unfold IniStsStore.lookup
  split
  · exact ⟨within, nofun⟩
  · rename_i key named
    have opened := within.opens access (timestamp now)
    have holds := within.holds access (timestamp now)
    dsimp only
    split
    · rename_i held found
      refine ⟨opened, ?_⟩
      rintro _ ⟨⟩
      obtain ⟨there, fresh⟩ := Option.filter_eq_some_iff.mp found
      rw [Bool.and_eq_true, decide_eq_true_eq] at fresh
      exact ⟨fresh.2, key, named, (opened.memory key held there).1⟩
    · split
      · rename_i cached found
        obtain ⟨there, fresh⟩ := Option.filter_eq_some_iff.mp found
        rw [fileView_held] at there
        split at there
        · have own := holds key cached there
          refine ⟨opened.remember own (readPolicy_wide there), ?_⟩
          rintro _ ⟨⟩
          exact ⟨of_decide_eq_true fresh, key, named, own⟩
        · cases there
      · split
        · rename_i held found
          refine ⟨opened, ?_⟩
          rintro _ ⟨⟩
          obtain ⟨there, fresh⟩ := Option.filter_eq_some_iff.mp found
          exact ⟨of_decide_eq_true fresh, key, named, (opened.memory key held there).1⟩
        · split
          · exact ⟨opened.remove access key (timestamp now), nofun⟩
          · exact ⟨opened, nofun⟩

omit [Platform] in
/-- The numbers of an incoming policy fit 64 bits. -/
theorem incomingPolicy_wide (port : UInt16) {durationSeconds : Int}
    (low : -(2 ^ 63) ≤ durationSeconds) (high : durationSeconds < 2 ^ 63) (nowUnix : Int) :
    Wide (incomingPolicy port durationSeconds nowUnix) := by
  refine ⟨⟨low, high⟩, ?_⟩
  rw [incomingPolicy, saturatingAdd]
  dsimp only
  omega

/-- A clear keeps what was stored since the last one. -/
theorem Within.cleared {since : String → Set StsCached}
    (within : Within (fun key cached => cached ∈ since key) store) (access : Access)
    (host : String) (now : Instant) :
    Within (fun key cached => cached ∈ Shelf.cleared since access host key)
      (store.clear access host now) := by
  unfold IniStsStore.clear Shelf.cleared
  cases stsGroupKey host with
  | none => exact within
  | some key =>
    dsimp only
    split
    · rename_i granted
      refine (within.removed key (timestamp now) granted.1 granted.2.1 granted.2.2).mono ?_
      rintro other cached ⟨apart, own⟩
      rw [Function.update_of_ne apart]
      exact own
    · exact within.remove access key (timestamp now)

/-- A store keeps what was stored since the last clear, with the new policy. -/
theorem Within.stored {since : String → Set StsCached}
    (within : Within (fun key cached => cached ∈ since key) store) (access : Access)
    (host : String) (port : UInt16) {durationSeconds : Int}
    (low : -(2 ^ 63) ≤ durationSeconds) (high : durationSeconds < 2 ^ 63) (now : Instant) :
    Within (fun key cached =>
        cached ∈ Shelf.stored since access host port durationSeconds now key)
      (store.store access host port durationSeconds now) := by
  unfold IniStsStore.store Shelf.stored
  split
  · exact within.cleared access host now
  · cases stsGroupKey host with
    | none => exact within
    | some key =>
      dsimp only
      split
      · exact within
      · generalize arrived : incomingPolicy port durationSeconds (timestamp now) = incoming
        have wide : Wide incoming := by
          rw [← arrived]
          exact incomingPolicy_wide port low high (timestamp now)
        have wider : Within (fun other cached =>
            cached ∈ Function.update since key (insert incoming (since key)) other) store := by
          refine within.mono fun other cached stored => ?_
          by_cases same : other = key
          · subst same
            rw [Function.update_self]
            exact Set.mem_insert_of_mem _ stored
          · rw [Function.update_of_ne same]
            exact stored
        have own : incoming ∈ Function.update since key (insert incoming (since key)) key := by
          rw [Function.update_self]
          exact Set.mem_insert incoming (since key)
        exact ((wider.opens access (timestamp now)).remember own wide).persist
          ((wider.holds access (timestamp now)).merge wide own)

/-- What the cache in the file holds was stored since the last clear that could read and
write the file. -/
theorem Shelf.step_within {shelf next : Shelf} {label : Shelf.Label}
    (within : Within (fun key cached => cached ∈ shelf.since key) shelf.store)
    (transition : shelf.step label = some next) :
    Within (fun key cached => cached ∈ next.since key) next.store := by
  cases label with
  | store access host port durationSeconds now =>
      rw [Shelf.step, Option.ite_none_right_eq_some] at transition
      obtain ⟨⟨_, low, high⟩, ⟨⟩⟩ := transition
      exact within.stored access host port low high now
  | clear access host now =>
      rw [Shelf.step, Option.ite_none_right_eq_some] at transition
      obtain ⟨_, ⟨⟩⟩ := transition
      exact within.cleared access host now
  | lookup access host now =>
      rw [Shelf.step, Option.ite_none_right_eq_some] at transition
      obtain ⟨_, ⟨⟩⟩ := transition
      exact (within.lookup access host now).1
  | reload =>
      cases transition
      exact within.reload

/-- What any run leaves in the cache was stored. -/
theorem Shelf.runs_within {file : StsFile} {reference : Policies} {clock : Instant}
    {shelf : Shelf} (runs : Runs Shelf.step unguarded (Shelf.start file reference clock) shelf) :
    Within (fun key cached => cached ∈ shelf.since key) shelf.store := by
  refine runs.invariant
    (fun shelf => Within (fun key cached => cached ∈ shelf.since key) shelf.store) ?_
    fun within _ transition => Shelf.step_within within transition
  refine ⟨fun key held found => ?_, fun key cached found => found⟩
  have empty : (∅ : StringMap Remembered)[key]? = some held := found
  rw [Std.TreeMap.getElem?_emptyc] at empty
  cases empty

end Answers

/-- What a file says beside a policy in memory. The file beside a saved policy has no other
live one, and the view beside an unsaved policy still says what the file does. -/
def Faces (nowUnix : Int) (onFile : Option StsCached) (held : Remembered) : Prop :=
  match held.unsaved with
  | none => ∀ cached, onFile = some cached → nowUnix < cached.expiryEpochSeconds →
      cached = held.cached
  | some view => ∀ before, view.known = some before → before = onFile

/-- A live policy of the memory cache is in the memory layer. -/
def Backed (store : IniStsStore) (nowUnix : Int) (key : String) (cached : StsCached) : Prop :=
  cached.port ≠ 0 ∧ Wide cached ∧ (nowUnix < cached.expiryEpochSeconds →
    ∃ held, store.memory[key]? = some held ∧ held.cached = cached ∧
      Faces nowUnix (store.policyAt key) held)

/-- A port that is not zero is at least one. -/
theorem port_pos {port : UInt16} (nonzero : port ≠ 0) : 1 ≤ port := by
  rw [UInt16.le_iff_toNat_le]
  refine Nat.one_le_iff_ne_zero.mpr fun zero => nonzero ?_
  rw [← UInt16.toNat_inj]
  exact zero

section Backed

variable {store : IniStsStore} {access : Access} {nowUnix : Int} {key : String}
  {cached : StsCached}

theorem Faces.later {onFile : Option StsCached} {held : Remembered} {later : Int}
    (faces : Faces nowUnix onFile held) (ordered : nowUnix ≤ later) :
    Faces later onFile held := by
  unfold Faces at faces ⊢
  split
  · rename_i saved
    rw [saved] at faces
    exact fun cached found live => faces cached found (lt_of_le_of_lt ordered live)
  · rename_i view unsaved
    rw [unsaved] at faces
    exact faces

theorem Backed.later {later : Int} (backed : Backed store nowUnix key cached)
    (ordered : nowUnix ≤ later) : Backed store later key cached := by
  obtain ⟨port, wide, live⟩ := backed
  refine ⟨port, wide, fun fresh => ?_⟩
  obtain ⟨held, found, same, faces⟩ := live (lt_of_le_of_lt ordered fresh)
  exact ⟨held, found, same, faces.later ordered⟩

/-- What a view of the whole file says is what the file holds. -/
theorem fileView_known {file : StsFile} {settings : Settings}
    (whole : access.probes = true → settings = file.settings) {before : Option StsCached}
    (known : (fileView access file settings key).known = some before) :
    before = readPolicy file.settings key := by
  unfold fileView at known
  split at known
  · cases known
  · rename_i probes
    rw [Bool.not_eq_false] at probes
    rw [← whole probes]
    generalize readPolicy settings key = read at known ⊢
    cases read with
    | some policy => exact (Option.some.inj known).symm
    | none =>
        cases file with
        | missing => cases known
        | malformed _ => cases known
        | wellFormed _ =>
            dsimp only at known
            split at known
            · cases known
            · exact (Option.some.inj known).symm

/-- A read of the file that agrees with the probe is whole. -/
theorem opens_settings (agrees : access.loads = access.probes) (probes : access.probes = true) :
    (store.opens access nowUnix).2 = store.file.settings :=
  if_pos (agrees.trans probes)

/-- A file does not move from the view it still has. -/
theorem fileMoved_same {recorded view : FileView} {onFile : Option StsCached}
    (recordedKnown : ∀ before, recorded.known = some before → before = onFile)
    (viewKnown : ∀ after, view.known = some after → after = onFile) :
    fileMoved recorded view nowUnix = false := by
  unfold fileMoved
  split
  · rename_i before after found now
    rw [recordedKnown before found, viewKnown after now]
    exact if_pos rfl
  · rfl

/-- An open whose reads agree keeps what the file says beside a policy. -/
theorem opens_faces (agrees : access.loads = access.probes) {held : Remembered}
    (found : store.memory[key]? = some held) (faces : Faces nowUnix (store.policyAt key) held) :
    ∃ opened, (store.opens access nowUnix).1.memory[key]? = some opened ∧
      opened.cached = held.cached ∧ Faces nowUnix (store.policyAt key) opened := by
  have settled : (store.opens access nowUnix).1.memory[key]? =
      store.memory[key]?.map fun held : Remembered => match held.unsaved with
        | none => held
        | some recorded =>
            let view := fileView access store.file (store.opens access nowUnix).2 key
            if fileMoved recorded view nowUnix then { held with unsaved := none }
            else if view ≠ .unreadable then { held with unsaved := some view }
            else held :=
    Std.TreeMap.getElem?_map
  have viewKnown : ∀ after,
      (fileView access store.file (store.opens access nowUnix).2 key).known = some after →
        after = store.policyAt key :=
    fun after known => fileView_known (opens_settings agrees) known
  refine ⟨_, settled.trans (congrArg (Option.map _) found), ?_⟩
  dsimp only
  unfold Faces at faces
  cases unsaved : held.unsaved with
  | none =>
      rw [unsaved] at faces
      refine ⟨rfl, ?_⟩
      unfold Faces
      dsimp only
      rw [unsaved]
      exact faces
  | some recorded =>
      rw [unsaved] at faces
      have stays := @fileMoved_same nowUnix recorded _ _ faces viewKnown
      dsimp only
      rw [stays, if_neg (by decide)]
      split
      · exact ⟨rfl, viewKnown⟩
      · refine ⟨rfl, ?_⟩
        unfold Faces
        rw [unsaved]
        exact faces

/-- A write keeps a policy backed when its group in the settings is the one of the file, or
the policy is unsaved. -/
theorem Backed.persist (backed : Backed store nowUnix key cached) {settings : Settings}
    (covers : access.probes = true → settings[key]? = store.file.settings[key]? ∨
      ∀ held, store.memory[key]? = some held → held.unsaved.isSome = true) :
    Backed (store.persistStsSettings access settings nowUnix) nowUnix key cached := by
  by_cases refused : access.probes = false ∨ access.writes = false
  · rw [persist_refused refused]
    exact backed
  · rw [not_or, Bool.not_eq_false, Bool.not_eq_false] at refused
    have landed := @persist_landed store access settings nowUnix refused.1 refused.2
    obtain ⟨port, wide, live⟩ := backed
    refine ⟨port, wide, fun fresh => ?_⟩
    obtain ⟨held, found, rfl, faces⟩ := live fresh
    have memory := landed.1 key
    have file := landed.2 key
    rw [found] at memory file
    refine ⟨held.settled nowUnix, memory, held.settled_cached nowUnix, ?_⟩
    rw [file, Remembered.settled, if_pos fresh]
    dsimp only
    unfold Faces
    dsimp only
    intro onFile read _
    split at read
    · rw [readPolicy_merge _ _ wide] at read
      split at read
      · exact (Option.some.inj read).symm
      · cases read
    · rename_i dropped
      have saved : held.unsaved = none := by
        by_contra unsaved
        refine dropped ?_
        rw [← Ne, Option.ne_none_iff_isSome] at unsaved
        rw [Remembered.lands, unsaved, Bool.true_or, Bool.and_true, Bool.and_eq_true,
          decide_eq_true_eq, decide_eq_true_eq]
        exact ⟨port_pos port, fresh⟩
      rcases covers refused.1 with same | unsaved
      · rw [readPolicy_dropInvalid, readPolicy_congr same] at read
        split at read
        · unfold Faces at faces
          rw [saved] at faces
          exact faces onFile read ‹_›
        · cases read
      · have := unsaved held found
        rw [saved] at this
        cases this

/-- An open whose reads agree keeps a policy backed. -/
theorem Backed.opens (backed : Backed store nowUnix key cached)
    (agrees : access.loads = access.probes) :
    Backed (store.opens access nowUnix).1 nowUnix key cached := by
  obtain ⟨port, wide, live⟩ := backed
  refine ⟨port, wide, fun fresh => ?_⟩
  obtain ⟨held, found, rfl, faces⟩ := live fresh
  obtain ⟨opened, there, same, still⟩ := opens_faces agrees found faces
  exact ⟨opened, there, same, still⟩

/-- A change of memory under another group keeps a policy backed. -/
theorem Backed.elsewhere (backed : Backed store nowUnix key cached)
    {memory : StringMap Remembered} (same : memory[key]? = store.memory[key]?) :
    Backed { store with memory } nowUnix key cached := by
  obtain ⟨port, wide, live⟩ := backed
  refine ⟨port, wide, fun fresh => ?_⟩
  obtain ⟨held, found, rest⟩ := live fresh
  exact ⟨held, same.trans found, rest⟩

/-- A removal of another group keeps a policy backed. -/
theorem Backed.remove (backed : Backed store nowUnix key cached)
    (agrees : access.loads = access.probes) {removed : String} (apart : key ≠ removed) :
    Backed (store.remove access removed nowUnix) nowUnix key cached := by
  have opened := (backed.elsewhere (erase_other store.memory apart)).opens agrees
  rw [IniStsStore.remove]
  dsimp only
  split
  · refine opened.persist fun probes => .inl ?_
    rw [erase_other _ apart, opens_settings agrees probes]
    rfl
  · exact opened

variable [Platform] {host : String} {now : Instant}

/-- A lookup of a backed policy that is live answers with it. -/
theorem Backed.answered (backed : Backed store (timestamp now) key cached)
    (agrees : access.loads = access.probes) (named : stsGroupKey host = some key)
    (fresh : timestamp now < cached.expiryEpochSeconds) :
    (store.lookup access host now).2 = some cached ∧
      Backed (store.lookup access host now).1 (timestamp now) key cached := by
  have opened := backed.opens agrees
  obtain ⟨port, wide, live⟩ := opened
  obtain ⟨held, found, rfl, faces⟩ := live fresh
  unfold IniStsStore.lookup
  rw [named]
  dsimp only
  rw [found]
  cases unsaved : held.unsaved with
  | some view =>
      have filtered : (some held).filter (fun held => held.unsaved.isSome &&
          decide (timestamp now < held.cached.expiryEpochSeconds)) = some held := by
        rw [Option.filter_some, unsaved]
        exact if_pos (decide_eq_true fresh)
      rw [filtered]
      exact ⟨rfl, port, wide, live⟩
  | none =>
      have filtered : (some held).filter (fun held => held.unsaved.isSome &&
          decide (timestamp now < held.cached.expiryEpochSeconds)) = none := by
        rw [Option.filter_some, unsaved]
        rfl
      rw [filtered]
      dsimp only
      split
      · rename_i onFile read
        obtain ⟨there, freshFile⟩ := Option.filter_eq_some_iff.mp read
        rw [fileView_held] at there
        split at there
        · rename_i probes
          rw [opens_settings agrees probes] at there
          unfold Faces at faces
          rw [unsaved] at faces
          rw [faces onFile there (of_decide_eq_true freshFile)]
          exact ⟨rfl, port, wide, fun _ =>
            ⟨_, found_insert .., rfl, fun other read fresh => faces other read fresh⟩⟩
        · cases there
      · have answers : (some held).filter (fun held =>
            decide (timestamp now < held.cached.expiryEpochSeconds)) = some held := by
          rw [Option.filter_some]
          exact if_pos (decide_eq_true fresh)
        rw [answers]
        exact ⟨rfl, port, wide, live⟩

/-- A lookup of another host keeps a policy backed. -/
theorem Backed.lookup (backed : Backed store (timestamp now) key cached)
    (agrees : access.loads = access.probes) (apart : stsGroupKey host ≠ some key) :
    Backed (store.lookup access host now).1 (timestamp now) key cached := by
  unfold IniStsStore.lookup
  split
  · exact backed
  · rename_i other named
    have differs : key ≠ other := by
      rintro rfl
      exact apart named
    have opened := backed.opens agrees
    dsimp only
    split
    · exact opened
    · split
      · exact opened.elsewhere (insert_other _ _ differs)
      · split
        · exact opened
        · split
          · exact opened.remove agrees differs
          · exact opened

/-- A clear of another host keeps a policy backed. -/
theorem Backed.cleared (backed : Backed store (timestamp now) key cached)
    (agrees : access.loads = access.probes) (apart : stsGroupKey host ≠ some key) :
    Backed (store.clear access host now) (timestamp now) key cached := by
  unfold IniStsStore.clear
  split
  · exact backed
  · rename_i other named
    refine backed.remove agrees ?_
    rintro rfl
    exact apart named

/-- A store of another host keeps a policy backed. -/
theorem Backed.stored (backed : Backed store (timestamp now) key cached)
    (agrees : access.loads = access.probes) (apart : stsGroupKey host ≠ some key) (port : UInt16)
    (durationSeconds : Int) :
    Backed (store.store access host port durationSeconds now) (timestamp now) key cached := by
  unfold IniStsStore.store
  split
  · exact backed.cleared agrees apart
  · split
    · exact backed
    · rename_i other named
      have differs : key ≠ other := by
        rintro rfl
        exact apart named
      dsimp only
      split
      · exact backed
      · refine ((backed.opens agrees).elsewhere (insert_other _ _ differs)).persist ?_
        intro probes
        refine .inl ?_
        rw [merge_other _ _ differs, opens_settings agrees probes]
        rfl

/-- A stored policy is backed. -/
theorem backed_store (agrees : access.loads = access.probes) (named : stsGroupKey host = some key)
    {port : UInt16} (nonzero : port ≠ 0) {durationSeconds : Int} (lasts : durationSeconds ≠ 0)
    (low : -(2 ^ 63) ≤ durationSeconds) (high : durationSeconds < 2 ^ 63) :
    Backed (store.store access host port durationSeconds now) (timestamp now) key
      (incomingPolicy port durationSeconds (timestamp now)) := by
  unfold IniStsStore.store
  rw [if_neg lasts, named]
  dsimp only
  rw [if_neg nonzero]
  refine Backed.persist ⟨nonzero, incomingPolicy_wide port low high _, fun fresh => ?_⟩ ?_
  · refine ⟨_, found_insert .., rfl, fun before known => ?_⟩
    have whole : access.probes = true → (store.opens access (timestamp now)).2 =
        store.file.settings := opens_settings agrees
    exact fileView_known whole known
  · intro _
    refine .inr fun held found => ?_
    have inserted := (found_insert ..).symm.trans found
    cases inserted
    rfl

end Backed

section Agreement

variable [Platform]

/-- The reads of a step all fail or all succeed, and the process goes on. -/
def ReadsAgree (_ : Shelf) : Shelf.Label → Prop
  | .store access .. | .clear access .. | .lookup access .. => access.loads = access.probes
  | .reload => False

instance (shelf : Shelf) : ∀ label, Decidable (ReadsAgree shelf label)
  | .store access .. | .clear access .. | .lookup access .. =>
      inferInstanceAs (Decidable (access.loads = access.probes))
  | .reload => .isFalse not_false

/-- Every store and clear reads and writes the file, past the epoch, and the reads of a
lookup all fail or all succeed. -/
def Lands (_ : Shelf) : Shelf.Label → Prop
  | .store access _ _ _ now => access = {} ∧ 0 ≤ timestamp now
  | .clear access .. => access = {}
  | .lookup access _ _ => access.loads = access.probes
  | .reload => True

omit [Platform] in
/-- A later time has a later timestamp. -/
theorem timestamp_mono {earlier later : Instant} (ordered : earlier ≤ later) :
    timestamp earlier ≤ timestamp later :=
  Int.ediv_le_ediv (by decide) ordered

namespace MemoryStsStore

variable {entries : Policies} {host key : String} {now : Instant} {cached : StsCached}

/-- A policy that a clear leaves was there, and is of another host. -/
theorem clear_found (found : (clear entries host)[key]? = some cached) :
    stsGroupKey host ≠ some key ∧ entries[key]? = some cached := by
  unfold clear at found
  split at found
  · rename_i nameless
    rw [nameless]
    exact ⟨nofun, found⟩
  · rename_i other named
    obtain ⟨apart, there⟩ := erase_found found
    rw [named]
    exact ⟨fun same => apart (Option.some.inj same).symm, there⟩

/-- A policy that a store leaves is the new one, or was there and is of another host, unless
the call is refused. -/
theorem store_found {port : UInt16} {durationSeconds : Int}
    (found : (store entries host port durationSeconds now)[key]? = some cached) :
    (stsGroupKey host = some key ∧ durationSeconds ≠ 0 ∧ port ≠ 0 ∧
        cached = incomingPolicy port durationSeconds (timestamp now)) ∨
      (entries[key]? = some cached ∧
        (stsGroupKey host ≠ some key ∨ (durationSeconds ≠ 0 ∧ port = 0))) := by
  unfold store at found
  split at found
  · obtain ⟨apart, there⟩ := clear_found found
    exact .inr ⟨there, .inl apart⟩
  · rename_i lasts
    split at found
    · rename_i nameless
      rw [nameless]
      exact .inr ⟨found, .inl nofun⟩
    · rename_i other named
      split at found
      · rename_i zero
        exact .inr ⟨found, .inr ⟨lasts, zero⟩⟩
      · rename_i nonzero
        rw [named]
        rcases insert_found found with ⟨rfl, rfl⟩ | ⟨apart, there⟩
        · exact .inl ⟨rfl, lasts, nonzero, rfl⟩
        · exact .inr ⟨there, .inl fun same => apart (Option.some.inj same).symm⟩

/-- A policy that a lookup leaves was there, and is live when it is of the host. -/
theorem lookup_found (found : (lookup entries host now).1[key]? = some cached) :
    entries[key]? = some cached ∧
      (stsGroupKey host = some key → timestamp now < cached.expiryEpochSeconds) := by
  unfold lookup at found
  split at found
  · rename_i nameless
    rw [nameless]
    exact ⟨found, nofun⟩
  · rename_i other named
    rw [named]
    split at found
    · rename_i absent
      refine ⟨found, ?_⟩
      rintro ⟨⟩
      rw [absent] at found
      cases found
    · rename_i held there
      split at found
      · obtain ⟨apart, before⟩ := erase_found found
        exact ⟨before, fun same => absurd (Option.some.inj same).symm apart⟩
      · rename_i live
        refine ⟨found, ?_⟩
        rintro ⟨⟩
        rw [there] at found
        cases found
        exact not_le.mp live

/-- A lookup keeps every live policy. -/
theorem lookup_keeps (live : timestamp now < cached.expiryEpochSeconds) :
    (lookup entries host now).1[key]? = some cached ↔ entries[key]? = some cached := by
  refine ⟨fun found => (lookup_found found).1, fun there => ?_⟩
  unfold lookup
  split
  · exact there
  · rename_i other named
    split
    · exact there
    · rename_i held found
      split
      · rename_i expired
        rw [erase_other]
        · exact there
        · rintro rfl
          cases there.symm.trans found
          exact absurd live (not_lt.mpr expired)
      · exact there

/-- The answer of a lookup is the live policy of the host. -/
theorem lookup_eq_some :
    (lookup entries host now).2 = some cached ↔
      ∃ key, stsGroupKey host = some key ∧ entries[key]? = some cached ∧
        timestamp now < cached.expiryEpochSeconds := by
  unfold lookup
  constructor
  · intro answered
    split at answered
    · cases answered
    · rename_i key named
      split at answered
      · cases answered
      · rename_i held there
        split at answered
        · cases answered
        · rename_i live
          cases answered
          exact ⟨key, named, there, not_le.mp live⟩
  · rintro ⟨key, named, there, live⟩
    rw [named]
    dsimp only
    rw [there]
    dsimp only
    rw [if_neg (not_le.mpr live)]

end MemoryStsStore

/-- Every policy of the memory cache is backed. -/
def AllBacked (shelf : Shelf) : Prop :=
  ∀ (key : String) (cached : StsCached), shelf.reference[key]? = some cached →
    Backed shelf.store (timestamp shelf.clock) key cached

/-- A step whose reads agree keeps every policy of the memory cache backed. -/
theorem AllBacked.step {shelf next : Shelf} {label : Shelf.Label} (backed : AllBacked shelf)
    (agrees : ReadsAgree shelf label) (transition : shelf.step label = some next) :
    AllBacked next := by
  intro key cached found
  cases label with
  | store access host port durationSeconds now =>
      rw [Shelf.step, Option.ite_none_right_eq_some] at transition
      obtain ⟨⟨ordered, low, high⟩, ⟨⟩⟩ := transition
      rcases MemoryStsStore.store_found found with ⟨named, lasts, nonzero, rfl⟩ | ⟨there, refused⟩
      · exact backed_store agrees named nonzero lasts low high
      · have before := (backed key cached there).later (timestamp_mono ordered)
        rcases refused with apart | ⟨lasts, zero⟩
        · exact before.stored agrees apart port durationSeconds
        · have same : shelf.store.store access host port durationSeconds now = shelf.store := by
            unfold IniStsStore.store
            rw [if_neg lasts]
            split
            · rfl
            · exact if_pos zero
          dsimp only
          rw [same]
          exact before
  | clear access host now =>
      rw [Shelf.step, Option.ite_none_right_eq_some] at transition
      obtain ⟨ordered, ⟨⟩⟩ := transition
      obtain ⟨apart, there⟩ := MemoryStsStore.clear_found found
      exact ((backed key cached there).later (timestamp_mono ordered)).cleared agrees apart
  | lookup access host now =>
      rw [Shelf.step, Option.ite_none_right_eq_some] at transition
      obtain ⟨ordered, ⟨⟩⟩ := transition
      obtain ⟨there, live⟩ := MemoryStsStore.lookup_found found
      have before := (backed key cached there).later (timestamp_mono ordered)
      by_cases named : stsGroupKey host = some key
      · exact (before.answered agrees named (live named)).2
      · exact before.lookup agrees named
  | reload => exact agrees.elim

/-- The policies of the memory cache stay backed over a run whose reads agree. -/
theorem Shelf.runs_backed {file : StsFile} {clock : Instant} {shelf : Shelf}
    (runs : Runs Shelf.step ReadsAgree (Shelf.start file ∅ clock) shelf) : AllBacked shelf := by
  refine runs.invariant AllBacked ?_ AllBacked.step
  intro key cached found
  have empty : (∅ : Policies)[key]? = some cached := found
  rw [Std.TreeMap.getElem?_emptyc] at empty
  cases empty

end Agreement

end Omairc.Storage
