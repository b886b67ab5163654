import Omairc.Storage.StsRefinement

/-!
# The file cache when every write lands

A policy that is live is on file exactly when the memory cache has it, so a lookup answers
the same from both. The memory layer can be lost at any time.
-/

namespace Omairc.Storage

open Omairc.Session Omairc.Semantics Omairc.Text

/-- A character that can stand in the name of a group. -/
def NameCharacter (character : Char) : Prop :=
  (character.isDigit || (decide ('a' ≤ character) && decide (character ≤ 'f'))) = true ∧
    (String.utf8EncodeChar character).length = 1

instance (character : Char) : Decidable (NameCharacter character) := by
  unfold NameCharacter
  infer_instance

/-- A hex digit can stand in the name of a group. -/
theorem nameCharacter_digitChar {value : Nat} (small : value < 16) :
    NameCharacter (Nat.digitChar value) := by
  have digits : ∀ value < 16, NameCharacter (Nat.digitChar value) := by decide
  exact digits value small

/-- The group of a host is named as one when a digest has 32 bytes. -/
theorem stsGroupKey_named [Platform] (digest : ∀ raw, (Platform.sha256 raw).length = 32)
    {host key : String} (named : stsGroupKey host = some key) : isStsGroupKey key = true := by
  have letters : ∀ bytes : Bytes, ∀ character ∈ bytes.flatMap hexByte, NameCharacter character := by
    intro bytes character listed
    obtain ⟨byte, _, digit⟩ := List.mem_flatMap.mp listed
    have small : byte.toNat < 256 := byte.toNat_lt
    rcases List.mem_cons.mp digit with rfl | digit
    · exact nameCharacter_digitChar (by omega)
    · rw [List.mem_singleton.mp digit]
      exact nameCharacter_digitChar (by omega)
  have lengths : ∀ bytes : Bytes,
      (utf8 (String.ofList (bytes.flatMap hexByte))).length = 2 * bytes.length := by
    intro bytes
    rw [utf8_ofList, List.length_flatMap]
    have ones : (bytes.flatMap hexByte).map (fun character =>
        (String.utf8EncodeChar character).length) = (bytes.flatMap hexByte).map fun _ => 1 :=
      List.map_congr_left fun character listed => (letters bytes character listed).2
    rw [ones, List.map_const', List.sum_replicate_nat, List.length_flatMap, Nat.mul_one]
    have twos : bytes.map (fun byte => (hexByte byte).length) = bytes.map fun _ => 2 := rfl
    rw [twos, List.map_const', List.sum_replicate_nat]
    exact Nat.mul_comm ..
  unfold stsGroupKey at named
  dsimp only at named
  split at named
  · cases named
  · cases named
    generalize utf8 (Platform.toLowercase (trim host)) = raw
    rw [isStsGroupKey, byteLength, lengths, digest, String.toList_ofList]
    refine Bool.and_eq_true_iff.mpr ⟨rfl, List.all_eq_true.mpr fun character listed => ?_⟩
    exact (letters _ character listed).1

/-- A live policy is on file exactly when the memory cache has it, and a live policy of the
memory layer is on file. -/
structure Accurate (store : IniStsStore) (reference : Policies) (nowUnix : Int) (key : String) :
    Prop where
  file : ∀ cached, nowUnix < cached.expiryEpochSeconds →
    (reference[key]? = some cached ↔ store.policyAt key = some cached)
  memory : ∀ held, store.memory[key]? = some held → nowUnix < held.cached.expiryEpochSeconds →
    store.policyAt key = some held.cached

section Accurate

variable {store : IniStsStore} {reference : Policies} {nowUnix : Int} {key : String}

theorem Accurate.later {later : Int} (accurate : Accurate store reference nowUnix key)
    (ordered : nowUnix ≤ later) : Accurate store reference later key :=
  ⟨fun cached live => accurate.file cached (lt_of_le_of_lt ordered live),
    fun held found live => accurate.memory held found (lt_of_le_of_lt ordered live)⟩

/-- An open keeps a group accurate. -/
theorem Accurate.opens (accurate : Accurate store reference nowUnix key) (access : Access) (time : Int) :
    Accurate (store.opens access time).1 reference nowUnix key := by
  refine ⟨accurate.file, fun held found live => ?_⟩
  obtain ⟨settle, cached, memory⟩ := opens_memory store access time key
  rw [memory, Option.map_eq_some_iff] at found
  obtain ⟨before, there, rfl⟩ := found
  rw [cached] at live ⊢
  exact accurate.memory before there live

/-- A change of memory under another group keeps a group accurate. -/
theorem Accurate.elsewhere (accurate : Accurate store reference nowUnix key)
    {memory : StringMap Remembered} (same : memory[key]? = store.memory[key]?) :
    Accurate { store with memory } reference nowUnix key :=
  ⟨accurate.file, fun held found live => accurate.memory held (same.symm.trans found) live⟩

/-- A change of the memory cache under another group keeps a group accurate. -/
theorem Accurate.congr (accurate : Accurate store reference nowUnix key) {other : Policies}
    (same : other[key]? = reference[key]?) : Accurate store other nowUnix key :=
  ⟨fun cached live => (iff_of_eq (congrArg (· = some cached) same)).trans (accurate.file cached live),
    accurate.memory⟩

/-- A write keeps a group accurate when the settings hold what the file does. -/
theorem Accurate.persist (accurate : Accurate store reference nowUnix key)
    (named : isStsGroupKey key = true) {access : Access} {settings : Settings}
    (whole : access.probes = true → settings[key]? = store.file.settings[key]?) :
    Accurate (store.persistStsSettings access settings nowUnix) reference nowUnix key := by
  by_cases refused : access.probes = false ∨ access.writes = false
  · rw [persist_refused refused]
    exact accurate
  rw [not_or, Bool.not_eq_false, Bool.not_eq_false] at refused
  have landed := @persist_landed store access settings nowUnix refused.1 refused.2
  obtain ⟨memory, file⟩ := landed
  have same := whole refused.1
  have kept : readPolicy (dropInvalidGroups settings) key = store.policyAt key := by
    rw [readPolicy_dropInvalid, if_pos named]
    exact readPolicy_congr same
  have written : (store.persistStsSettings access settings nowUnix).policyAt key =
      store.policyAt key := by
    rw [file]
    cases found : store.memory[key]? with
    | none => exact kept
    | some held =>
        dsimp only
        split
        · rename_i lands
          have live : nowUnix < held.cached.expiryEpochSeconds := by
            rw [Remembered.lands, Bool.and_eq_true, Bool.and_eq_true, decide_eq_true_eq,
              decide_eq_true_eq] at lands
            exact lands.1.2
          have onFile := accurate.memory held found live
          rw [readPolicy_merge _ _ (readPolicy_wide onFile), if_pos (readPolicy_valid onFile)]
          exact onFile.symm
        · exact kept
  refine ⟨fun cached live => ?_, fun held found live => ?_⟩
  · rw [written]
    exact accurate.file cached live
  · rw [memory, Option.map_eq_some_iff] at found
    obtain ⟨before, there, rfl⟩ := found
    rw [Remembered.settled_cached] at live ⊢
    rw [written]
    exact accurate.memory before there live

variable [Platform] {host : String} {now : Instant}

omit [Platform] in
/-- A policy that lives after the epoch can be held by a file. -/
theorem incomingPolicy_valid {port : UInt16} (nonzero : port ≠ 0) {durationSeconds : Int}
    (past : 0 ≤ nowUnix)
    (live : nowUnix < (incomingPolicy port durationSeconds nowUnix).expiryEpochSeconds) :
    Valid (incomingPolicy port durationSeconds nowUnix) := by
  rw [incomingPolicy, saturatingAdd] at live ⊢
  dsimp only at live
  exact ⟨nonzero, by dsimp only; omega, by dsimp only; omega⟩

omit [Platform] in
/-- A removal leaves its group accurate once the memory cache has dropped it too. -/
theorem accurate_removed {time : Int}
    (absent : ∀ cached, nowUnix < cached.expiryEpochSeconds → reference[key]? ≠ some cached) :
    Accurate (store.remove {} key time) reference nowUnix key := by
  refine ⟨fun cached live => ?_, fun held found live => ?_⟩
  · rw [remove_file store key time rfl rfl rfl]
    exact ⟨fun found => absurd found (absent cached live), nofun⟩
  · rw [remove_memory] at found
    cases found

omit [Platform] in
/-- A removal keeps the other groups accurate. -/
theorem Accurate.remove (accurate : Accurate store reference nowUnix key)
    (named : isStsGroupKey key = true) {access : Access} (agrees : access.loads = access.probes)
    {removed : String} (apart : key ≠ removed) :
    Accurate (store.remove access removed nowUnix) reference nowUnix key := by
  have opened := (accurate.elsewhere (erase_other store.memory apart)).opens access nowUnix
  rw [IniStsStore.remove]
  dsimp only
  split
  · refine opened.persist named fun probes => ?_
    rw [erase_other _ apart, opens_settings agrees probes]
    rfl
  · exact opened

omit [Platform] in
/-- A write of a new policy leaves its group accurate. -/
theorem accurate_written {settings : Settings} {incoming : StsCached} {view : FileView}
    (named : isStsGroupKey key = true) (wide : Wide incoming)
    (valid : nowUnix < incoming.expiryEpochSeconds → Valid incoming) :
    Accurate ((store.remember key { cached := incoming, unsaved := some view }).persistStsSettings
      {} (mergeStsPolicy settings key incoming) nowUnix) (reference.insert key incoming) nowUnix
      key := by
  have landed := @persist_landed
    (store.remember key { cached := incoming, unsaved := some view }) {}
    (mergeStsPolicy settings key incoming) nowUnix rfl rfl
  obtain ⟨memory, file⟩ := landed
  have inserted : (store.remember key { cached := incoming, unsaved := some view }).memory[key]? =
      some { cached := incoming, unsaved := some view } := found_insert ..
  have written : ((store.remember key { cached := incoming, unsaved := some view
      }).persistStsSettings {} (mergeStsPolicy settings key incoming) nowUnix).policyAt key =
      if Valid incoming then some incoming else none := by
    rw [file, inserted]
    dsimp only
    split
    · exact readPolicy_merge _ _ wide
    · rw [readPolicy_dropInvalid, if_pos named]
      exact readPolicy_merge _ _ wide
  refine ⟨fun cached live => ?_, fun held found live => ?_⟩
  · rw [found_insert, written]
    constructor
    · rintro ⟨⟩
      exact if_pos (valid live)
    · intro read
      split at read
      · exact read
      · cases read
  · rw [memory, inserted, Option.map_some] at found
    cases found
    rw [Remembered.settled_cached] at live ⊢
    rw [written]
    exact if_pos (valid live)

variable {access : Access}

omit [Platform] in
/-- A view that reads the file has the policy that is on file. -/
theorem view_policyAt (agrees : access.loads = access.probes) (probes : access.probes = true)
    (time : Int) :
    (fileView access (store.opens access time).1.file (store.opens access time).2 key).held =
      store.policyAt key := by
  rw [fileView_held, if_pos probes, opens_settings agrees probes]
  rfl

/-- What a lookup answers is live on file. -/
theorem Accurate.answer_onFile (accurate : Accurate store reference (timestamp now) key)
    (agrees : access.loads = access.probes) (digest : stsGroupKey host = some key)
    {cached : StsCached} (answered : (store.lookup access host now).2 = some cached) :
    timestamp now < cached.expiryEpochSeconds ∧ store.policyAt key = some cached := by
  have opened := accurate.opens access (timestamp now)
  unfold IniStsStore.lookup at answered
  rw [digest] at answered
  dsimp only at answered
  split at answered
  · rename_i held found
    cases answered
    obtain ⟨there, fresh⟩ := Option.filter_eq_some_iff.mp found
    have live := of_decide_eq_true (Bool.and_eq_true_iff.mp fresh).2
    exact ⟨live, opened.memory held there live⟩
  · split at answered
    · rename_i onFile read
      cases answered
      obtain ⟨there, fresh⟩ := Option.filter_eq_some_iff.mp read
      refine ⟨of_decide_eq_true fresh, ?_⟩
      rw [fileView_held] at there
      split at there
      · rename_i probes
        rw [opens_settings agrees probes] at there
        exact there
      · cases there
    · split at answered
      · rename_i held found
        cases answered
        obtain ⟨there, fresh⟩ := Option.filter_eq_some_iff.mp found
        have live := of_decide_eq_true fresh
        exact ⟨live, opened.memory held there live⟩
      · split at answered
        · cases answered
        · cases answered

/-- A lookup that reads the file answers with what is live there. -/
theorem lookup_reads (agrees : access.loads = access.probes) (probes : access.probes = true)
    (digest : stsGroupKey host = some key) {cached : StsCached}
    (onFile : store.policyAt key = some cached)
    (live : timestamp now < cached.expiryEpochSeconds) :
    (store.lookup access host now).2.isSome = true := by
  unfold IniStsStore.lookup
  rw [digest]
  dsimp only
  split
  · rfl
  · rw [view_policyAt agrees probes, onFile, Option.filter_some, if_pos (decide_eq_true live)]
    rfl

/-- A lookup answers only what the memory cache does, and just that when it reads the file. -/
theorem Accurate.answered (accurate : Accurate store reference (timestamp now) key)
    (agrees : access.loads = access.probes) (digest : stsGroupKey host = some key)
    (cached : StsCached) :
    ((store.lookup access host now).2 = some cached →
      (MemoryStsStore.lookup reference host now).2 = some cached) ∧
    (access.probes = true → (MemoryStsStore.lookup reference host now).2 = some cached →
      (store.lookup access host now).2 = some cached) := by
  have sound : ∀ cached, (store.lookup access host now).2 = some cached →
      (MemoryStsStore.lookup reference host now).2 = some cached := by
    intro cached answered
    obtain ⟨live, onFile⟩ := accurate.answer_onFile agrees digest answered
    exact MemoryStsStore.lookup_eq_some.mpr
      ⟨key, digest, (accurate.file cached live).mpr onFile, live⟩
  refine ⟨sound cached, fun probes answered => ?_⟩
  obtain ⟨other, named, there, live⟩ := MemoryStsStore.lookup_eq_some.mp answered
  cases digest.symm.trans named
  have onFile := (accurate.file cached live).mp there
  obtain ⟨found, some_⟩ := Option.isSome_iff_exists.mp (lookup_reads agrees probes digest onFile live)
  cases (sound found some_).symm.trans answered
  exact some_

/-- A lookup keeps the group of its host accurate. -/
theorem Accurate.looked (accurate : Accurate store reference (timestamp now) key)
    (agrees : access.loads = access.probes) (digest : stsGroupKey host = some key) :
    Accurate (store.lookup access host now).1 reference (timestamp now) key := by
  have opened := accurate.opens access (timestamp now)
  unfold IniStsStore.lookup
  rw [digest]
  dsimp only
  split
  · exact opened
  · split
    · rename_i cached read
      refine ⟨opened.file, fun held found live => ?_⟩
      have inserted := (found_insert ..).symm.trans found
      cases inserted
      have there := (Option.filter_eq_some_iff.mp read).1
      rw [fileView_held] at there
      split at there
      · rename_i probes
        rw [opens_settings agrees probes] at there
        exact there
      · cases there
    · rename_i absent
      split
      · exact opened
      · split
        · rename_i present
          have probes : access.probes = true := by
            rw [← agrees]
            by_contra fails
            have empty : (store.opens access (timestamp now)).2 = ∅ := if_neg fails
            rw [empty, Settings.text, Std.TreeMap.getElem?_emptyc] at present
            cases present.1
          have dead : ∀ cached, timestamp now < cached.expiryEpochSeconds →
              store.policyAt key ≠ some cached := by
            intro cached live onFile
            rw [view_policyAt agrees probes, onFile, Option.filter_some,
              if_pos (decide_eq_true live)] at absent
            cases absent
          refine ⟨fun cached live => ?_, fun held found _ => ?_⟩
          · refine iff_of_false (fun there => dead cached live ((accurate.file cached live).mp there))
              fun there => ?_
            rcases remove_policyAt (store.opens access (timestamp now)).1 access key
              (timestamp now) with gone | kept
            · rw [gone] at there
              cases there
            · exact dead cached live (kept.symm.trans there)
          · rw [remove_memory] at found
            cases found
        · exact opened

/-- A lookup keeps a group accurate. -/
theorem Accurate.lookup (accurate : Accurate store reference (timestamp now) key)
    (named : isStsGroupKey key = true) (agrees : access.loads = access.probes) (host : String) :
    Accurate (store.lookup access host now).1 (MemoryStsStore.lookup reference host now).1
      (timestamp now) key := by
  have looked : Accurate (store.lookup access host now).1 reference (timestamp now) key := by
    by_cases own : stsGroupKey host = some key
    · exact accurate.looked agrees own
    · unfold IniStsStore.lookup
      split
      · exact accurate
      · rename_i other digest
        have differs : key ≠ other := by
          rintro rfl
          exact own digest
        have opened := accurate.opens access (timestamp now)
        dsimp only
        split
        · exact opened
        · split
          · exact opened.elsewhere (insert_other _ _ differs)
          · split
            · exact opened
            · split
              · exact opened.remove named agrees differs
              · exact opened
  refine ⟨fun cached live => ?_, looked.memory⟩
  rw [← looked.file cached live]
  exact MemoryStsStore.lookup_keeps live

/-- A clear keeps a group accurate. -/
theorem Accurate.clear (accurate : Accurate store reference (timestamp now) key)
    (named : isStsGroupKey key = true) (host : String) :
    Accurate (store.clear {} host now) (MemoryStsStore.clear reference host) (timestamp now) key := by
  unfold IniStsStore.clear MemoryStsStore.clear
  cases stsGroupKey host with
  | none => exact accurate
  | some other =>
      dsimp only
      by_cases same : key = other
      · subst same
        refine accurate_removed fun cached live there => ?_
        rw [Std.TreeMap.getElem?_erase_self] at there
        cases there
      · exact (accurate.remove named rfl same).congr (erase_other reference same)

/-- A store past the epoch keeps a group accurate. -/
theorem Accurate.stored (accurate : Accurate store reference (timestamp now) key)
    (named : isStsGroupKey key = true) (past : 0 ≤ timestamp now) (host : String) (port : UInt16)
    {durationSeconds : Int} (low : -(2 ^ 63) ≤ durationSeconds)
    (high : durationSeconds < 2 ^ 63) :
    Accurate (store.store {} host port durationSeconds now)
      (MemoryStsStore.store reference host port durationSeconds now) (timestamp now) key := by
  unfold IniStsStore.store MemoryStsStore.store
  split
  · exact accurate.clear named host
  · cases stsGroupKey host with
    | none => exact accurate
    | some other =>
        dsimp only
        split
        · exact accurate
        · rename_i nonzero
          by_cases same : key = other
          · subst same
            exact accurate_written named (incomingPolicy_wide port low high _)
              (incomingPolicy_valid nonzero past)
          · refine Accurate.congr ?_ (insert_other reference _ same)
            refine ((accurate.opens {} (timestamp now)).elsewhere (insert_other _ _ same)).persist
              named fun _ => ?_
            exact merge_other _ _ same

omit [Platform] in
/-- A restart keeps a group accurate. -/
theorem Accurate.reload (accurate : Accurate store reference nowUnix key) :
    Accurate store.reload reference nowUnix key := by
  refine ⟨accurate.file, fun held found _ => ?_⟩
  rw [IniStsStore.reload, Std.TreeMap.getElem?_emptyc] at found
  cases found

end Accurate

section Runs

variable [Platform]

/-- Every group of a host is accurate. -/
def AllAccurate (shelf : Shelf) : Prop :=
  ∀ key, isStsGroupKey key = true →
    Accurate shelf.store shelf.reference (timestamp shelf.clock) key

/-- A step that lands keeps every group accurate. -/
theorem AllAccurate.step {shelf next : Shelf} {label : Shelf.Label} (accurate : AllAccurate shelf)
    (lands : Lands shelf label) (transition : shelf.step label = some next) :
    AllAccurate next := by
  intro key named
  have before := accurate key named
  cases label with
  | store access host port durationSeconds now =>
      rw [Shelf.step, Option.ite_none_right_eq_some] at transition
      obtain ⟨⟨ordered, low, high⟩, ⟨⟩⟩ := transition
      obtain ⟨rfl, past⟩ := lands
      exact (before.later (timestamp_mono ordered)).stored named past host port low high
  | clear access host now =>
      rw [Shelf.step, Option.ite_none_right_eq_some] at transition
      obtain ⟨ordered, ⟨⟩⟩ := transition
      cases lands
      exact (before.later (timestamp_mono ordered)).clear named host
  | lookup access host now =>
      rw [Shelf.step, Option.ite_none_right_eq_some] at transition
      obtain ⟨ordered, ⟨⟩⟩ := transition
      exact (before.later (timestamp_mono ordered)).lookup named lands host
  | reload =>
      cases transition
      exact before.reload

/-- Every group stays accurate over a run that lands. -/
theorem Shelf.runs_accurate {file : StsFile} {reference : Policies} {clock : Instant}
    {shelf : Shelf} (mirrors : ∀ key : String, reference[key]? = readPolicy file.settings key)
    (runs : Runs Shelf.step Lands (Shelf.start file reference clock) shelf) :
    AllAccurate shelf := by
  refine runs.invariant AllAccurate (fun key _ => ⟨fun cached _ => ?_, fun held found => ?_⟩)
    AllAccurate.step
  · exact iff_of_eq (congrArg (· = some cached) (mirrors key))
  · have empty : (∅ : StringMap Remembered)[key]? = some held := found
    rw [Std.TreeMap.getElem?_emptyc] at empty
    cases empty

/-- Whatever fails, a lookup answers with a live policy that was stored since the last clear
that could read and write the file. While the reads of each call agree and the process goes
on, it answers what the memory cache answers. When every store and clear lands past the epoch,
it answers nothing else, and just that when it reads the file, also after a restart. -/
theorem lookup_refines (digest : ∀ raw, (Platform.sha256 raw).length = 32) (file : StsFile)
    (reference : Policies) (clock : Instant) (shelf : Shelf) :
    (Runs Shelf.step unguarded (Shelf.start file reference clock) shelf →
      ∀ access host now cached, (shelf.store.lookup access host now).2 = some cached →
        timestamp now < cached.expiryEpochSeconds ∧
          ∃ key, stsGroupKey host = some key ∧ cached ∈ shelf.since key) ∧
    (reference = ∅ → Runs Shelf.step ReadsAgree (Shelf.start file reference clock) shelf →
      ∀ (access : Access) host now cached, shelf.clock ≤ now → access.loads = access.probes →
        (MemoryStsStore.lookup shelf.reference host now).2 = some cached →
          (shelf.store.lookup access host now).2 = some cached) ∧
    ((∀ key : String, reference[key]? = readPolicy file.settings key) →
      Runs Shelf.step Lands (Shelf.start file reference clock) shelf →
      ∀ (access : Access) host now, shelf.clock ≤ now → access.loads = access.probes →
        (∀ cached, (shelf.store.lookup access host now).2 = some cached →
          (MemoryStsStore.lookup shelf.reference host now).2 = some cached) ∧
        (access.probes = true → (shelf.store.lookup access host now).2 =
          (MemoryStsStore.lookup shelf.reference host now).2)) := by
  refine ⟨fun runs access host now cached answered => ?_, ?_, ?_⟩
  · exact ((Shelf.runs_within runs).lookup access host now).2 cached answered
  · rintro rfl runs access host now cached ordered agrees answered
    obtain ⟨key, named, there, live⟩ := MemoryStsStore.lookup_eq_some.mp answered
    have backed := (Shelf.runs_backed runs key cached there).later (timestamp_mono ordered)
    exact (backed.answered agrees named live).1
  · intro mirrors runs access host now ordered agrees
    cases named : stsGroupKey host with
    | none =>
        unfold IniStsStore.lookup MemoryStsStore.lookup
        rw [named]
        exact ⟨fun _ absent => absent, fun _ => rfl⟩
    | some key =>
        have accurate := (Shelf.runs_accurate mirrors runs key
          (stsGroupKey_named digest named)).later (timestamp_mono ordered)
        refine ⟨fun cached => (accurate.answered agrees named cached).1, fun probes => ?_⟩
        apply Option.ext
        intro cached
        obtain ⟨sound, complete⟩ := accurate.answered agrees named cached
        exact ⟨sound, complete probes⟩

end Runs

section Witness

/-- The reference platform with the SHA-256 digest of "irc.example" in the place of any. -/
local instance hostPlatform : Platform :=
  { Session.reference with
    sha256 := fun _ =>
      [0xa8, 0x4a, 0x91, 0xb2, 0xbc, 0x2e, 0xa5, 0x26, 0xcb, 0x7d, 0x24, 0x48, 0x72, 0xdd, 0xff,
        0xe0, 0x77, 0x0a, 0x9c, 0xa3, 0x73, 0x7e, 0xe9, 0xef, 0x35, 0x5e, 0x90, 0x18, 0xa7, 0x67,
        0x67, 0xde] }

/-- A policy whose write failed answers later lookups. -/
theorem unwritten_policy_answers :
    ∃ shelf, Runs Shelf.step ReadsAgree (Shelf.start .missing ∅ 0) shelf ∧
      (shelf.store.lookup {} "irc.example" (60 * 10 ^ 9)).2 =
        some { port := 6697, durationSeconds := 3600, expiryEpochSeconds := 3600 } := by
  have taken : (runGuarded Shelf.step ReadsAgree (Shelf.start .missing ∅ 0)
      [.store { writes := false } "irc.example" 6697 3600 0]).any (fun shelf =>
        decide (shelf.clock ≤ 60 * 10 ^ 9) &&
        decide ((MemoryStsStore.lookup shelf.reference "irc.example" (60 * 10 ^ 9)).2 =
          some { port := 6697, durationSeconds := 3600, expiryEpochSeconds := 3600 })) = true := by
    decide
  obtain ⟨shelf, reached, found⟩ := exists_of_any taken
  have runs := Runs.of_runGuarded reached
  rw [Bool.and_eq_true, decide_eq_true_eq, decide_eq_true_eq] at found
  exact ⟨shelf, runs, (lookup_refines (fun _ => rfl) .missing ∅ 0 shelf).2.1 rfl runs {}
    "irc.example" (60 * 10 ^ 9) _ found.1 rfl found.2⟩

/-- A policy that was cleared while the file could not be written answers again. -/
theorem cleared_policy_answers :
    ¬∀ (shelf cleared : Shelf) (access later : Access) (host : String) (now time : Instant),
      Runs Shelf.step unguarded (Shelf.start .missing ∅ 0) shelf →
      shelf.step (.clear access host now) = some cleared → now ≤ time →
      (cleared.store.lookup later host time).2 = none := by
  intro forgets
  have taken : (runAll Shelf.step (Shelf.start .missing ∅ 0)
      [.store {} "irc.example" 6697 3600 0]).any (fun shelf =>
        (shelf.step (.clear { writes := false } "irc.example" (10 ^ 9))).any fun cleared =>
          (cleared.store.lookup {} "irc.example" (2 * 10 ^ 9)).2.isSome) = true := by
    decide +kernel
  obtain ⟨shelf, reached, next⟩ := exists_of_any taken
  obtain ⟨cleared, transition, answers⟩ := exists_of_any next
  rw [forgets shelf cleared { writes := false } {} "irc.example" (10 ^ 9) (2 * 10 ^ 9)
    (.of_runAll reached) transition (by decide)] at answers
  cases answers

end Witness

end Omairc.Storage
