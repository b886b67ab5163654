import Omairc.Storage.StsSettings

/-!
# What a call of the file cache leaves

Each call opens the file and may write it. A write leaves, host by host, what landed from the
memory layer or what the settings held, so what holds of every policy of the memory and of
the file is kept by every call.
-/

namespace Omairc.Storage

open Omairc.Session Omairc.Text

/-- The policy that the file holds for a group. -/
def IniStsStore.policyAt (store : IniStsStore) (key : String) : Option StsCached :=
  readPolicy store.file.settings key

/-- A policy in memory after a write has landed. -/
def Remembered.settled (held : Remembered) (nowUnix : Int) : Remembered :=
  if nowUnix < held.cached.expiryEpochSeconds then { held with unsaved := none } else held

@[simp] theorem Remembered.settled_cached (held : Remembered) (nowUnix : Int) :
    (held.settled nowUnix).cached = held.cached := by
  unfold Remembered.settled
  split
  · rfl
  · rfl

section Persist

variable {store : IniStsStore} {access : Access} {settings : Settings} {nowUnix : Int}

/-- A write that cannot land changes nothing. -/
theorem persist_refused (refused : access.probes = false ∨ access.writes = false) :
    store.persistStsSettings access settings nowUnix = store := by
  rw [IniStsStore.persistStsSettings]
  exact if_pos refused

/-- A file holds what was written to it. -/
theorem written_getElem? (file : StsFile) (settings : Settings) (key : String) :
    (file.written settings).settings[key]? = settings[key]? := by
  cases file with
  | missing =>
      rw [StsFile.written]
      split
      · rename_i empty
        rw [StsFile.settings, Std.TreeMap.getElem?_emptyc]
        exact (Std.TreeMap.getElem?_of_isEmpty empty).symm
      · rfl
  | malformed settings => rfl
  | wellFormed settings => rfl

/-- A write that lands settles the memory and leaves the merged settings. -/
theorem persist_landed (probes : access.probes = true) (writes : access.writes = true) :
    (∀ key : String, (store.persistStsSettings access settings nowUnix).memory[key]? =
      store.memory[key]?.map fun held : Remembered => held.settled nowUnix) ∧
    ∀ key : String, (store.persistStsSettings access settings nowUnix).policyAt key =
      match store.memory[key]? with
      | some held =>
          if held.lands (dropInvalidGroups settings) key nowUnix store.file.recovers then
            readPolicy (mergeStsPolicy (dropInvalidGroups settings) key held.cached) key
          else readPolicy (dropInvalidGroups settings) key
      | none => readPolicy (dropInvalidGroups settings) key := by
  have landed : ¬(access.probes = false ∨ access.writes = false) := by
    rw [probes, writes]
    decide
  constructor
  · intro key
    rw [IniStsStore.persistStsSettings, if_neg landed]
    exact Std.TreeMap.getElem?_map
  · intro key
    rw [IniStsStore.policyAt, IniStsStore.persistStsSettings, if_neg landed]
    have held := (written_getElem? store.file (mergeMemoryIntoSettings (dropInvalidGroups settings)
      store.memory nowUnix store.file.recovers) key).trans (mergeMemory_getElem? ..)
    cases found : store.memory[key]? with
    | none =>
        rw [found] at held
        exact readPolicy_congr held
    | some remembered =>
        rw [found] at held
        dsimp only at held ⊢
        by_cases lands : remembered.lands (dropInvalidGroups settings) key nowUnix
          store.file.recovers = true
        · rw [if_pos lands] at held ⊢
          exact readPolicy_congr held
        · rw [if_neg lands] at held ⊢
          exact readPolicy_congr held

end Persist

/-- Every policy in memory and on file meets a condition on its group, and the ones in memory
fit 64 bits. -/
structure Within (allowed : String → StsCached → Prop) (store : IniStsStore) : Prop where
  memory : ∀ (key : String) (held : Remembered), store.memory[key]? = some held →
    allowed key held.cached ∧ Wide held.cached
  file : ∀ (key : String) (cached : StsCached), store.policyAt key = some cached →
    allowed key cached

/-- Every policy that settings hold meets a condition on its group. -/
def Holds (allowed : String → StsCached → Prop) (settings : Settings) : Prop :=
  ∀ (key : String) (cached : StsCached), readPolicy settings key = some cached → allowed key cached

section Within

variable {allowed : String → StsCached → Prop} {store : IniStsStore} {access : Access}
  {settings : Settings} {nowUnix : Int} {key : String}

theorem Holds.merge (holds : Holds allowed settings) {incoming : StsCached} (wide : Wide incoming)
    (own : allowed key incoming) : Holds allowed (mergeStsPolicy settings key incoming) := by
  intro other cached read
  by_cases same : other = key
  · subst same
    rw [readPolicy_merge settings other wide] at read
    split at read
    · cases read
      exact own
    · cases read
  · rw [readPolicy_congr (merge_other settings incoming same)] at read
    exact holds other cached read

theorem Holds.dropInvalid (holds : Holds allowed settings) :
    Holds allowed (dropInvalidGroups settings) := by
  intro other cached read
  rw [readPolicy_dropInvalid] at read
  split at read
  · exact holds other cached read
  · cases read

theorem Holds.erase (holds : Holds allowed settings) (key : String) :
    Holds allowed (settings.erase key) := by
  intro other cached read
  by_cases same : other = key
  · rw [readPolicy_absent (by rw [same]; exact Std.TreeMap.getElem?_erase_self)] at read
    cases read
  · rw [readPolicy_congr (erase_other settings same)] at read
    exact holds other cached read

/-- A write keeps the condition. -/
theorem Within.persist (within : Within allowed store) (holds : Holds allowed settings) :
    Within allowed (store.persistStsSettings access settings nowUnix) := by
  by_cases refused : access.probes = false ∨ access.writes = false
  · rw [persist_refused refused]
    exact within
  · rw [not_or, Bool.not_eq_false, Bool.not_eq_false] at refused
    have landed := @persist_landed store access settings nowUnix refused.1 refused.2
    obtain ⟨memory, file⟩ := landed
    refine ⟨fun key held found => ?_, fun key cached found => ?_⟩
    · rw [memory, Option.map_eq_some_iff] at found
      obtain ⟨before, there, rfl⟩ := found
      rw [Remembered.settled_cached]
      exact within.memory key before there
    · rw [file] at found
      cases there : store.memory[key]? with
      | none =>
          rw [there] at found
          exact holds.dropInvalid key cached found
      | some held =>
          obtain ⟨own, wide⟩ := within.memory key held there
          rw [there] at found
          dsimp only at found
          split at found
          · exact (holds.dropInvalid.merge wide own) key cached found
          · exact holds.dropInvalid key cached found

/-- What is loaded of the file meets the condition. -/
theorem Within.holds (within : Within allowed store) (access : Access) (nowUnix : Int) :
    Holds allowed (store.opens access nowUnix).2 := by
  intro key cached read
  rw [IniStsStore.opens] at read
  dsimp only at read
  split at read
  · exact within.file key cached read
  · rw [readPolicy_absent Std.TreeMap.getElem?_emptyc] at read
    cases read

/-- What an open leaves of a policy in memory. -/
theorem opens_memory (store : IniStsStore) (access : Access) (nowUnix : Int) (key : String) :
    ∃ settle : Remembered → Remembered, (∀ held, (settle held).cached = held.cached) ∧
      (store.opens access nowUnix).1.memory[key]? = store.memory[key]?.map settle := by
  refine ⟨_, ?_, Std.TreeMap.getElem?_map⟩
  intro held
  generalize (if access.loads = true then store.file.settings else ∅) = settings
  dsimp only
  split
  · rfl
  · split
    · rfl
    · split
      · rfl
      · rfl

/-- An open keeps the condition. -/
theorem Within.opens (within : Within allowed store) (access : Access) (nowUnix : Int) :
    Within allowed (store.opens access nowUnix).1 := by
  refine ⟨fun key held found => ?_, within.file⟩
  obtain ⟨settle, cached, memory⟩ := opens_memory store access nowUnix key
  rw [memory, Option.map_eq_some_iff] at found
  obtain ⟨before, there, rfl⟩ := found
  rw [cached]
  exact within.memory key before there

/-- A remembered policy that meets the condition keeps it. -/
theorem Within.remember (within : Within allowed store) {held : Remembered}
    (own : allowed key held.cached) (wide : Wide held.cached) :
    Within allowed (store.remember key held) := by
  refine ⟨fun other found there => ?_, within.file⟩
  rcases insert_found there with ⟨rfl, rfl⟩ | ⟨_, before⟩
  · exact ⟨own, wide⟩
  · exact within.memory other found before

/-- A removal keeps the condition. -/
theorem Within.remove (within : Within allowed store) (access : Access) (key : String)
    (nowUnix : Int) : Within allowed (store.remove access key nowUnix) := by
  have dropped : Within allowed { store with memory := store.memory.erase key } :=
    ⟨fun other held found => within.memory other held (erase_found found).2, within.file⟩
  have opened := dropped.opens access nowUnix
  have holds := dropped.holds access nowUnix
  rw [IniStsStore.remove]
  dsimp only
  split
  · exact opened.persist (holds.erase key)
  · exact opened

omit key in
/-- An open brings nothing into memory that was erased. -/
theorem erased_opens (store : IniStsStore) (access : Access) (key : String) (nowUnix : Int) :
    (IniStsStore.opens { store with memory := store.memory.erase key } access
      nowUnix).1.memory[key]? = none := by
  obtain ⟨settle, _, memory⟩ :=
    opens_memory { store with memory := store.memory.erase key } access nowUnix key
  rw [memory, Std.TreeMap.getElem?_erase_self]
  rfl

omit key in
/-- A removal drops the group from memory. -/
theorem remove_memory (store : IniStsStore) (access : Access) (key : String) (nowUnix : Int) :
    (store.remove access key nowUnix).memory[key]? = none := by
  have opened := erased_opens store access key nowUnix
  rw [IniStsStore.remove]
  dsimp only
  split
  · by_cases refused : access.probes = false ∨ access.writes = false
    · rw [persist_refused refused]
      exact opened
    · rw [not_or, Bool.not_eq_false, Bool.not_eq_false] at refused
      rw [(persist_landed refused.1 refused.2).1, opened]
      rfl
  · exact opened

omit key in
/-- A removal on a file that can be read and written drops the group from the file. -/
theorem remove_file (store : IniStsStore) (key : String) (nowUnix : Int) {access : Access}
    (loads : access.loads = true) (probes : access.probes = true) (writes : access.writes = true) :
    (store.remove access key nowUnix).policyAt key = none := by
  have opened := erased_opens store access key nowUnix
  have settings : (IniStsStore.opens { store with memory := store.memory.erase key } access
      nowUnix).2 = store.file.settings := if_pos loads
  rw [IniStsStore.remove]
  dsimp only
  rw [settings]
  split
  · rw [(persist_landed probes writes).2, opened]
    dsimp only
    rw [readPolicy_dropInvalid, readPolicy_absent Std.TreeMap.getElem?_erase_self, ite_self]
  · rename_i absent
    refine readPolicy_absent (Std.TreeMap.getElem?_eq_none_of_contains_eq_false ?_)
    rw [Bool.not_eq_true] at absent
    exact absent

omit key in
/-- A removal drops the group from the file, or leaves what the file holds of it. -/
theorem remove_policyAt (store : IniStsStore) (access : Access) (key : String) (nowUnix : Int) :
    (store.remove access key nowUnix).policyAt key = none ∨
      (store.remove access key nowUnix).policyAt key = store.policyAt key := by
  rw [IniStsStore.remove]
  dsimp only
  split
  · by_cases refused : access.probes = false ∨ access.writes = false
    · rw [persist_refused refused]
      exact .inr rfl
    · rw [not_or, Bool.not_eq_false, Bool.not_eq_false] at refused
      refine .inl ?_
      rw [(persist_landed refused.1 refused.2).2, erased_opens]
      dsimp only
      rw [readPolicy_dropInvalid, readPolicy_absent Std.TreeMap.getElem?_erase_self, ite_self]
  · exact .inr rfl

/-- A removal on a file that can be read and written leaves nothing of the group. -/
theorem Within.removed (within : Within allowed store) (key : String) (nowUnix : Int)
    {access : Access} (loads : access.loads = true) (probes : access.probes = true)
    (writes : access.writes = true) :
    Within (fun other cached => other ≠ key ∧ allowed other cached)
      (store.remove access key nowUnix) := by
  have kept := within.remove access key nowUnix
  refine ⟨fun other held found => ?_, fun other cached found => ?_⟩
  · obtain ⟨own, wide⟩ := kept.memory other held found
    refine ⟨⟨?_, own⟩, wide⟩
    rintro rfl
    rw [remove_memory] at found
    cases found
  · refine ⟨?_, kept.file other cached found⟩
    rintro rfl
    rw [remove_file store other nowUnix loads probes writes] at found
    cases found

end Within

end Omairc.Storage
