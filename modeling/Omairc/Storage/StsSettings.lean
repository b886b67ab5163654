import Omairc.Storage.StsPolicies
import Omairc.Text.Decimal

/-!
# What the policy cache reads back

A policy reads back from the group it was written to, and a write holds, host by host, the
policy of the memory layer that landed or what the file held.
-/

namespace Omairc.Storage

open Omairc.Session Omairc.Text

section Folds

variable {Value Held : Type}

/-- A fold over entries with distinct keys, each of which changes its own key only, leaves
under a key what the entry of the key leaves there. -/
theorem getElem?_foldl_entries (change : StringMap Value → String → Held → StringMap Value)
    (own : ∀ {left right : StringMap Value} {key : String} (held : Held),
      left[key]? = right[key]? → (change left key held)[key]? = (change right key held)[key]?)
    (apart : ∀ (entries : StringMap Value) {key other : String} (held : Held), other ≠ key →
      (change entries key held)[other]? = entries[other]?)
    (listed : List (String × Held)) (distinct : (listed.map Prod.fst).Nodup)
    (entries : StringMap Value) (key : String) :
    (∀ held, (key, held) ∈ listed →
      (listed.foldl (fun entries (key, held) => change entries key held) entries)[key]? =
        (change entries key held)[key]?) ∧
    ((∀ held, (key, held) ∉ listed) →
      (listed.foldl (fun entries (key, held) => change entries key held) entries)[key]? =
        entries[key]?) := by
  induction listed generalizing entries with
  | nil => exact ⟨nofun, fun _ => rfl⟩
  | cons first rest inductionHypothesis =>
      obtain ⟨name, value⟩ := first
      rw [List.map_cons, List.nodup_cons] at distinct
      obtain ⟨present, absent⟩ := inductionHypothesis distinct.2 (change entries name value)
      rw [List.foldl_cons]
      by_cases same : key = name
      · subst same
        have later : ∀ held, (key, held) ∉ rest := fun held there =>
          distinct.1 (List.mem_map.mpr ⟨(key, held), there, rfl⟩)
        refine ⟨fun held there => ?_, fun none_ => absurd (List.mem_cons_self ..) (none_ value)⟩
        rcases List.mem_cons.mp there with same | there
        · cases same
          exact absent later
        · exact absurd there (later held)
      · refine ⟨fun held there => ?_, fun none_ => ?_⟩
        · rcases List.mem_cons.mp there with equal | there
          · cases equal
            exact absurd rfl same
          · exact (present held there).trans (own held (apart entries value same))
        · refine (absent fun held there => none_ held (List.mem_cons_of_mem _ there)).trans ?_
          exact apart entries value same

end Folds

section Settings

variable {settings other : Settings} {key group name : String}

theorem text_congr (same : settings[group]? = other[group]?) (name : String) :
    settings.text group name = other.text group name := by
  rw [Settings.text, Settings.text, same]

/-- A policy is read from its own group. -/
theorem readPolicy_congr (same : settings[key]? = other[key]?) :
    readPolicy settings key = readPolicy other key := by
  have unsigned : settings.uintValue key "port" = other.uintValue key "port" := by
    rw [Settings.uintValue, Settings.uintValue, text_congr same]
  have signed : ∀ name, settings.intValue key name = other.intValue key name := by
    intro name
    rw [Settings.intValue, Settings.intValue, text_congr same]
  rw [readPolicy, readPolicy, unsigned, signed, signed]

theorem readPolicy_absent (absent : settings[key]? = none) : readPolicy settings key = none := by
  have empty : settings[key]? = (∅ : Settings)[key]? := by
    rw [absent, Std.TreeMap.getElem?_emptyc]
  rw [readPolicy_congr empty]
  rfl

theorem setValue_other (settings : Settings) {group other : String} (name value : String)
    (apart : other ≠ group) : (settings.setValue group name value)[other]? = settings[other]? :=
  insert_other _ _ apart

theorem text_setValue (settings : Settings) (group name value other : String) :
    (settings.setValue group name value).text group other =
      if other = name then some value else settings.text group other := by
  rw [Settings.text, Settings.setValue, found_insert]
  show (Function.update ((settings[group]?).getD fun _ => none) name (some value) : Group) other = _
  rw [Function.update_apply]
  split
  · rfl
  · rw [Settings.text]
    cases settings[group]? with
    | none => rfl
    | some values => rfl

theorem merge_other (settings : Settings) {key other : String} (incoming : StsCached)
    (apart : other ≠ key) : (mergeStsPolicy settings key incoming)[other]? = settings[other]? := by
  rw [mergeStsPolicy, setValue_other _ _ _ apart, setValue_other _ _ _ apart,
    setValue_other _ _ _ apart]

theorem setValue_congr (same : settings[group]? = other[group]?) (name value : String) :
    (settings.setValue group name value)[group]? = (other.setValue group name value)[group]? := by
  rw [Settings.setValue, Settings.setValue, found_insert, found_insert, same]

theorem merge_congr (same : settings[key]? = other[key]?) (incoming : StsCached) :
    (mergeStsPolicy settings key incoming)[key]? = (mergeStsPolicy other key incoming)[key]? :=
  setValue_congr (setValue_congr (setValue_congr same ..) ..) ..

/-- The numbers of a policy fit 64 bits. -/
structure Wide (cached : StsCached) : Prop where
  duration : -(2 ^ 63) ≤ cached.durationSeconds ∧ cached.durationSeconds < 2 ^ 63
  expiry : -(2 ^ 63) ≤ cached.expiryEpochSeconds ∧ cached.expiryEpochSeconds < 2 ^ 63

/-- A policy that a file can hold. -/
structure Valid (cached : StsCached) : Prop where
  port : cached.port ≠ 0
  duration : 1 ≤ cached.durationSeconds
  expiry : 1 ≤ cached.expiryEpochSeconds

instance (cached : StsCached) : Decidable (Valid cached) :=
  decidable_of_iff (cached.port ≠ 0 ∧ 1 ≤ cached.durationSeconds ∧ 1 ≤ cached.expiryEpochSeconds)
    ⟨fun ⟨port, duration, expiry⟩ => ⟨port, duration, expiry⟩,
      fun valid => ⟨valid.port, valid.duration, valid.expiry⟩⟩

/-- What is read is a policy that a file can hold. -/
theorem readPolicy_valid {cached : StsCached} (read : readPolicy settings key = some cached) :
    Valid cached := by
  rw [readPolicy] at read
  split at read
  · rename_i fits
    cases read
    refine ⟨fun zero => ?_, fits.2.2.1, fits.2.2.2⟩
    have port : (UInt16.ofNat (settings.uintValue key "port")).toNat = 0 :=
      congrArg UInt16.toNat zero
    rw [UInt16.toNat_ofNat', Nat.mod_eq_of_lt fits.1] at port
    have := fits.2.1
    omega
  · cases read

/-- A signed value fits 64 bits. -/
theorem intValue_wide (settings : Settings) (group key : String) :
    -(2 ^ 63) ≤ settings.intValue group key ∧ settings.intValue group key < 2 ^ 63 := by
  rw [Settings.intValue]
  cases read : (settings.text group key).bind fun text => parseInt64 (trim text) with
  | none => exact ⟨by decide, by decide⟩
  | some value =>
      obtain ⟨text, _, parsed⟩ := Option.bind_eq_some_iff.mp read
      exact of_decide_eq_true (Option.filter_eq_some_iff.mp parsed).2

/-- The numbers of a policy that is read fit 64 bits. -/
theorem readPolicy_wide {cached : StsCached} (read : readPolicy settings key = some cached) :
    Wide cached := by
  rw [readPolicy] at read
  split at read
  · cases read
    exact ⟨intValue_wide .., intValue_wide ..⟩
  · cases read

/-- A written policy reads back when a file can hold it, and no policy reads back when it
cannot. -/
theorem readPolicy_merge (settings : Settings) (key : String) {cached : StsCached}
    (wide : Wide cached) :
    readPolicy (mergeStsPolicy settings key cached) key =
      if Valid cached then some cached else none := by
  have port : (mergeStsPolicy settings key cached).uintValue key "port" = cached.port.toNat := by
    have small : cached.port.toNat < 2 ^ 64 := lt_trans cached.port.toNat_lt (by decide)
    rw [Settings.uintValue, mergeStsPolicy, text_setValue, if_neg (by decide), text_setValue,
      if_neg (by decide), text_setValue, if_pos rfl]
    rw [Option.bind_some, parseUnsigned_repr small, Option.getD_some]
  have duration : (mergeStsPolicy settings key cached).intValue key "duration" =
      cached.durationSeconds := by
    rw [Settings.intValue, mergeStsPolicy, text_setValue, if_neg (by decide), text_setValue,
      if_pos rfl]
    rw [Option.bind_some, parseInt64_repr wide.duration.1 wide.duration.2, Option.getD_some]
  have expiry : (mergeStsPolicy settings key cached).intValue key "expiry" =
      cached.expiryEpochSeconds := by
    rw [Settings.intValue, mergeStsPolicy, text_setValue, if_pos rfl]
    rw [Option.bind_some, parseInt64_repr wide.expiry.1 wide.expiry.2, Option.getD_some]
  rw [readPolicy]
  simp only [port, duration, expiry]
  have zero : cached.port ≠ 0 ↔ 1 ≤ cached.port.toNat := by
    rw [Nat.one_le_iff_ne_zero, not_iff_not, ← UInt16.toNat_inj]
    rfl
  by_cases valid : Valid cached
  · rw [if_pos valid, if_pos ⟨cached.port.toNat_lt, zero.mp valid.port, valid.duration, valid.expiry⟩]
    rw [UInt16.ofNat_toNat]
  · rw [if_neg valid, if_neg]
    rintro ⟨_, port, duration, expiry⟩
    exact valid ⟨zero.mpr port, duration, expiry⟩

/-- The groups that stay are the policies under the name of a host. -/
theorem readPolicy_dropInvalid (settings : Settings) (key : String) :
    readPolicy (dropInvalidGroups settings) key =
      if isStsGroupKey key then readPolicy settings key else none := by
  cases found : (dropInvalidGroups settings)[key]? with
  | none =>
      rw [readPolicy_absent found]
      rw [dropInvalidGroups, Std.TreeMap.getElem?_filter', Option.filter_eq_none_iff] at found
      split
      · rename_i named
        cases there : settings[key]? with
        | none => exact (readPolicy_absent there).symm
        | some group =>
            have dropped := found group there
            rw [named, Bool.true_and, Bool.not_eq_true, Option.isSome_eq_false_iff,
              Option.isNone_iff_eq_none] at dropped
            exact dropped.symm
      · rfl
  | some group =>
      obtain ⟨kept, there⟩ := filter_found found
      rw [if_pos (Bool.and_eq_true_iff.mp kept).1]
      exact readPolicy_congr (found.trans there.symm)

/-- A write holds the policy in memory where it lands. -/
theorem mergeMemory_getElem? (settings : Settings) (memory : StringMap Remembered)
    (nowUnix : Int) (recovery : Bool) (key : String) :
    (mergeMemoryIntoSettings settings memory nowUnix recovery)[key]? =
      match memory[key]? with
      | some held =>
          if held.lands settings key nowUnix recovery then
            (mergeStsPolicy settings key held.cached)[key]?
          else settings[key]?
      | none => settings[key]? := by
  have distinct : (memory.toList.map Prod.fst).Nodup := by
    have apart := Std.TreeMap.distinct_keys_toList (t := memory)
    rw [List.Nodup, List.pairwise_map]
    exact apart.imp fun {left right} differs same => differs (by rw [same]; exact Std.ReflCmp.compare_self)
  obtain ⟨present, absent⟩ := getElem?_foldl_entries
    (fun settings key (held : Remembered) =>
      if held.lands settings key nowUnix recovery then mergeStsPolicy settings key held.cached
      else settings)
    (by
      intro left right key held same
      have lands : held.lands left key nowUnix recovery = held.lands right key nowUnix recovery := by
        simp only [Remembered.lands, readPolicy_congr same]
      rw [lands]
      split
      · exact merge_congr same held.cached
      · exact same)
    (by
      intro entries key other held apart
      split
      · exact merge_other _ _ apart
      · rfl)
    memory.toList distinct settings key
  cases found : memory[key]? with
  | none =>
      refine absent fun held there => ?_
      rw [Std.TreeMap.mem_toList_iff_getElem?_eq_some, found] at there
      cases there
  | some held =>
      rw [mergeMemoryIntoSettings,
        present held (Std.TreeMap.mem_toList_iff_getElem?_eq_some.mpr found)]
      by_cases lands : held.lands settings key nowUnix recovery = true
      · rw [if_pos lands]
        exact (if_pos lands).symm
      · rw [if_neg lands]
        exact (if_neg lands).symm

end Settings

end Omairc.Storage
