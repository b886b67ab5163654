import Mathlib.Data.List.Basic

/-!
# Ordered maps

Lookup in a map from which several keys were erased, and the values of a map in the
order of its entries.
-/

namespace Omairc.Text

universe u v

variable {Key : Type u} {Value : Type v} {compared : Key → Key → Ordering}
  [Std.TransCmp compared]

omit [Std.TransCmp compared] in
/-- The values of a map are those of its entries. -/
theorem values_eq_map_toList (entries : Std.TreeMap Key Value compared) :
    entries.values = entries.toList.map Prod.snd := by
  have folded : entries.values = entries.foldr (fun _ value values => value :: values) [] := rfl
  rw [folded, Std.TreeMap.foldr_eq_foldr_toList]
  induction entries.toList with
  | nil => rfl
  | cons entry rest inductionHypothesis => rw [List.foldr_cons, inductionHypothesis, List.map_cons]

variable [Std.LawfulEqCmp compared]

omit [Std.TransCmp compared] in
/-- Keys compare as equal when they are equal. -/
theorem compared_beq_eq [DecidableEq Key] (first second : Key) :
    (compared first second == .eq) = decide (first = second) := by
  by_cases same : first = second
  · simp [same]
  · simp [same]

/-- A value is in a map when some key has it. -/
theorem mem_values_iff {entries : Std.TreeMap Key Value compared} {value : Value} :
    value ∈ entries.values ↔ ∃ key : Key, entries[key]? = some value := by
  rw [values_eq_map_toList, List.mem_map]
  constructor
  · rintro ⟨⟨key, found⟩, listed, rfl⟩
    exact ⟨key, Std.TreeMap.mem_toList_iff_getElem?_eq_some.mp listed⟩
  · rintro ⟨key, found⟩
    exact ⟨(key, value), Std.TreeMap.mem_toList_iff_getElem?_eq_some.mpr found, rfl⟩

/-- Erasing keys one after another leaves the entries of the others. -/
theorem getElem?_foldl_erase [DecidableEq Key] (keys : List Key)
    (entries : Std.TreeMap Key Value compared) (key : Key) :
    (keys.foldl (fun left erased => left.erase erased) entries)[key]? =
      if key ∈ keys then none else entries[key]? := by
  induction keys generalizing entries with
  | nil => simp
  | cons erased rest inductionHypothesis =>
      rw [List.foldl_cons, inductionHypothesis, Std.TreeMap.getElem?_erase]
      by_cases later : key ∈ rest
      · simp [later]
      · by_cases same : erased = key
        · subst same
          simp [later]
        · simp [later, same, Ne.symm same]

/-- A value found after an insertion is the inserted one, or was there under another
key. -/
theorem insert_found {entries : Std.TreeMap Key Value compared} {key other : Key}
    {value found : Value} (listed : (entries.insert key value)[other]? = some found) :
    (other = key ∧ found = value) ∨ (other ≠ key ∧ entries[other]? = some found) := by
  rw [Std.TreeMap.getElem?_insert] at listed
  split at listed
  · rename_i same
    cases listed
    exact .inl ⟨(Std.LawfulEqCmp.eq_of_compare same).symm, rfl⟩
  · rename_i differs
    refine .inr ⟨fun same => differs ?_, listed⟩
    rw [same]
    exact Std.ReflCmp.compare_self

/-- A value found after an erasure was there, under another key. -/
theorem erase_found {entries : Std.TreeMap Key Value compared} {key other : Key}
    {found : Value} (listed : (entries.erase key)[other]? = some found) :
    other ≠ key ∧ entries[other]? = some found := by
  rw [Std.TreeMap.getElem?_erase] at listed
  split at listed
  · cases listed
  · rename_i differs
    refine ⟨fun same => differs ?_, listed⟩
    rw [same]
    exact Std.ReflCmp.compare_self

/-- A value found after a filter was there. -/
theorem filter_found {entries : Std.TreeMap Key Value compared} {keep : Key → Value → Bool}
    {key : Key} {found : Value} (listed : (entries.filter keep)[key]? = some found) :
    keep key found = true ∧ entries[key]? = some found := by
  rw [Std.TreeMap.getElem?_filter', Option.filter_eq_some_iff] at listed
  exact listed.symm

/-- The inserted value is found. -/
theorem found_insert (entries : Std.TreeMap Key Value compared) (key : Key) (value : Value) :
    (entries.insert key value)[key]? = some value := by
  rw [Std.TreeMap.getElem?_insert, if_pos Std.ReflCmp.compare_self]

/-- An insertion under another key changes nothing. -/
theorem insert_other (entries : Std.TreeMap Key Value compared) {key other : Key} (value : Value)
    (differs : other ≠ key) : (entries.insert key value)[other]? = entries[other]? := by
  rw [Std.TreeMap.getElem?_insert, if_neg]
  intro same
  exact differs (Std.LawfulEqCmp.eq_of_compare same).symm

/-- An erasure under another key changes nothing. -/
theorem erase_other (entries : Std.TreeMap Key Value compared) {key other : Key}
    (differs : other ≠ key) : (entries.erase key)[other]? = entries[other]? := by
  rw [Std.TreeMap.getElem?_erase, if_neg]
  intro same
  exact differs (Std.LawfulEqCmp.eq_of_compare same).symm

/-- Entries inserted one after another, where those of a key agree. -/
theorem getElem?_foldl_insert [DecidableEq Key] (listed : List (Key × Value))
    (entries : Std.TreeMap Key Value compared) {key : Key} {value : Value}
    (agree : ∀ held, (key, held) ∈ listed → held = value) :
    (listed.foldl (fun entries entry => entries.insert entry.1 entry.2) entries)[key]? =
      if key ∈ listed.map Prod.fst then some value else entries[key]? := by
  induction listed generalizing entries with
  | nil => simp
  | cons entry rest inductionHypothesis =>
      rw [List.foldl_cons, List.map_cons,
        inductionHypothesis _ fun held there => agree held (List.mem_cons_of_mem _ there)]
      by_cases later : key ∈ rest.map Prod.fst
      · rw [if_pos later, if_pos (List.mem_cons_of_mem _ later)]
      · rw [if_neg later]
        by_cases same : key = entry.1
        · subst same
          rw [if_pos List.mem_cons_self, found_insert, agree entry.2 List.mem_cons_self]
        · rw [if_neg (by simp [same, later]), insert_other _ _ same]

/-- Maps with the same keys list them alike. -/
theorem keys_congr {Other : Type v} {entries : Std.TreeMap Key Value compared}
    {others : Std.TreeMap Key Other compared}
    (same : ∀ key, entries.contains key = others.contains key) : entries.keys = others.keys := by
  have units : (entries.map fun _ _ => ()).Equiv (others.map fun _ _ => ()) := by
    refine .of_forall_contains_unit_eq fun key => ?_
    rw [Std.TreeMap.contains_map, Std.TreeMap.contains_map]
    exact same key
  have keys := units.keys_eq
  rw [Std.TreeMap.keys_map, Std.TreeMap.keys_map] at keys
  exact keys

end Omairc.Text
