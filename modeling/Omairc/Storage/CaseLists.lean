import Mathlib.Data.List.InsertIdx
import Mathlib.Data.List.Nodup
import Mathlib.Data.Set.Basic
import Omairc.Irc.ServerFeatures

/-!
# Case-mapped lists

The lists the client keeps for each network across runs. Each keeps the order of
insertion, and compares its values through the case mapping of the network.
-/

namespace Omairc.Storage

open Omairc.Irc

/-- Whether any of the values equals one under a mapping. -/
def containsValue (values : List String) (value : String) (mapping : IrcCaseMapping) : Bool :=
  values.any fun candidate => mapping.equals candidate value

/-- The shared case-mapped list. A network with no list has an empty one. -/
structure CaseListStore where
  lists : String → List String := fun _ => []

namespace CaseListStore

/-- The stored values of a network, in the order of insertion. -/
def entries (store : CaseListStore) (networkId : String) : List String :=
  if networkId = "" then [] else store.lists networkId

/-- Whether a value is stored for a network. -/
def contains (store : CaseListStore) (networkId value : String) (mapping : IrcCaseMapping) :
    Bool :=
  if networkId = "" ∨ value = "" then false
  else containsValue (store.entries networkId) value mapping

/-- Replace the list of a network. -/
def put (store : CaseListStore) (networkId : String) (values : List String) : CaseListStore where
  lists := Function.update store.lists networkId values

/-- Store a value, and tell whether it is new. -/
def add (store : CaseListStore) (networkId value : String) (mapping : IrcCaseMapping) :
    CaseListStore × Bool :=
  if networkId = "" ∨ value = "" then (store, false)
  else if containsValue (store.lists networkId) value mapping then (store, false)
  else (store.put networkId (store.lists networkId ++ [value]), true)

/-- Drop every value that equals one, and tell whether anything changed. -/
def remove (store : CaseListStore) (networkId value : String) (mapping : IrcCaseMapping) :
    CaseListStore × Bool :=
  if networkId = "" ∨ value = "" then (store, false)
  else
    let kept := (store.lists networkId).filter fun candidate => !mapping.equals candidate value
    if kept.length = (store.lists networkId).length then (store, false)
    else (store.put networkId kept, true)

/-- Drop the list of a network. -/
def forget (store : CaseListStore) (networkId : String) : CaseListStore :=
  if networkId = "" then store else store.put networkId []

/-- Rename a value. A change of spelling keeps its place, and a new name that is already
stored absorbs the old one. -/
def rekey (store : CaseListStore) (networkId old new : String) (mapping : IrcCaseMapping) :
    CaseListStore :=
  if networkId = "" ∨ old = "" ∨ new = "" then store
  else
    let current := store.lists networkId
    match current.findIdx? fun candidate => mapping.equals candidate old with
    | none => store
    | some index =>
        if mapping.equals (current.getD index "") new then
          store.put networkId (current.set index new)
        else
          let rest := current.eraseIdx index
          store.put networkId (if containsValue rest new mapping then rest else rest ++ [new])

variable {store : CaseListStore} {networkId value : String} {values : List String}

/-- The spellings listed for a network, under its mapping. -/
def folds (store : CaseListStore) (mapping : String → IrcCaseMapping) (networkId : String) :
    List String :=
  (store.entries networkId).map (mapping networkId).normalize

variable {mapping : String → IrcCaseMapping}

theorem folds_of_given (given : networkId ≠ "") :
    store.folds mapping networkId = (store.lists networkId).map (mapping networkId).normalize := by
  rw [folds, entries, if_neg given]

theorem containsValue_iff {mapping : IrcCaseMapping} :
    containsValue values value mapping = true ↔
      mapping.normalize value ∈ values.map mapping.normalize := by
  simp [containsValue, IrcCaseMapping.equals]

theorem folds_put (given : networkId ≠ "") (other : String) :
    (store.put networkId values).folds mapping other =
      if other = networkId then values.map (mapping networkId).normalize
      else store.folds mapping other := by
  unfold folds entries put
  dsimp only
  split_ifs with blank same same
  · exact absurd (same.symm.trans blank) given
  · rfl
  · rw [same, Function.update_self]
  · rw [Function.update_of_ne same]

/-- A name is stored when its spelling is listed. -/
theorem contains_iff :
    store.contains networkId value (mapping networkId) = true ↔
      networkId ≠ "" ∧ value ≠ "" ∧
        (mapping networkId).normalize value ∈ store.folds mapping networkId := by
  unfold contains
  split_ifs with blank
  · simp only [false_iff]
    exact fun named => blank.elim named.1 named.2.1
  · rw [containsValue_iff]
    exact ⟨fun listed => ⟨fun none => blank (.inl none), fun none => blank (.inr none), listed⟩,
      fun named => named.2.2⟩

/-- A change of the lists, as the commands and the server's renames ask for it. -/
inductive ListCall
  | add (networkId value : String)
  | remove (networkId value : String)
  | rekey (networkId old new : String)
  | forget (networkId : String)

namespace ListCall

/-- What a call makes of the lists, under the mapping of each network. -/
def apply (mapping : String → IrcCaseMapping) (store : CaseListStore) : ListCall → CaseListStore
  | .add networkId value => (store.add networkId value (mapping networkId)).1
  | .remove networkId value => (store.remove networkId value (mapping networkId)).1
  | .rekey networkId old new => store.rekey networkId old new (mapping networkId)
  | .forget networkId => store.forget networkId

/-- What a call means for the set of spellings that each network lists. -/
def meaning (mapping : String → IrcCaseMapping) (listed : String → Set String) :
    ListCall → String → Set String
  | .add networkId value =>
      if networkId = "" ∨ value = "" then listed
      else Function.update listed networkId
        {folded | folded ∈ listed networkId ∨ folded = (mapping networkId).normalize value}
  | .remove networkId value =>
      if networkId = "" ∨ value = "" then listed
      else Function.update listed networkId
        {folded | folded ∈ listed networkId ∧ folded ≠ (mapping networkId).normalize value}
  | .rekey networkId old new =>
      if networkId = "" ∨ old = "" ∨ new = "" then listed
      else Function.update listed networkId
        {folded | folded ∈ listed networkId ∧ folded ≠ (mapping networkId).normalize old ∨
          (mapping networkId).normalize old ∈ listed networkId ∧
            folded = (mapping networkId).normalize new}
  | .forget networkId => Function.update listed networkId ∅

end ListCall

/-- The lists hold these spellings, each once. -/
structure Lists (mapping : String → IrcCaseMapping) (store : CaseListStore)
    (listed : String → Set String) : Prop where
  distinct : ∀ networkId, (store.folds mapping networkId).Nodup
  same : ∀ networkId folded, folded ∈ store.folds mapping networkId ↔ folded ∈ listed networkId

namespace Lists

variable {listed : String → Set String} {changed : Set String}

theorem put (lists : Lists mapping store listed) (given : networkId ≠ "")
    (distinct : (values.map (mapping networkId).normalize).Nodup)
    (same : ∀ folded, folded ∈ values.map (mapping networkId).normalize ↔ folded ∈ changed) :
    Lists mapping (store.put networkId values) (Function.update listed networkId changed) := by
  constructor
  · intro other
    rw [folds_put given]
    split_ifs
    · exact distinct
    · exact lists.distinct other
  · intro other folded
    rw [folds_put given, Function.update_apply]
    split_ifs
    · exact same folded
    · exact lists.same other folded

/-- A new spelling goes behind the others. -/
theorem nodup_concat {normalize : String → String} (distinct : (values.map normalize).Nodup)
    (fresh : normalize value ∉ values.map normalize) :
    ((values ++ [value]).map normalize).Nodup := by
  rw [List.map_append, List.map_singleton, List.nodup_append]
  refine ⟨distinct, List.nodup_singleton _, fun folded listed other last same => fresh ?_⟩
  rw [← List.mem_singleton.mp last, ← same]
  exact listed

/-- A call that leaves the lists means the spellings that are there. -/
theorem stay (lists : Lists mapping store listed)
    (same : ∀ folded, folded ∈ listed networkId ↔ folded ∈ changed) :
    Lists mapping store (Function.update listed networkId changed) := by
  rw [show changed = listed networkId from Set.ext fun folded => (same folded).symm,
    Function.update_eq_self]
  exact lists

theorem add (lists : Lists mapping store listed) (networkId value : String) :
    Lists mapping (ListCall.apply mapping store (.add networkId value))
      (ListCall.meaning mapping listed (.add networkId value)) := by
  simp only [ListCall.apply, ListCall.meaning, CaseListStore.add]
  split_ifs with blank stored
  · exact lists
  · rw [containsValue_iff, ← folds_of_given (not_or.mp blank).1, lists.same] at stored
    exact lists.stay fun folded => ⟨.inl, Or.rec id fun same => same ▸ stored⟩
  · have given := (not_or.mp blank).1
    have distinct := lists.distinct networkId
    rw [containsValue_iff] at stored
    rw [folds_of_given given] at distinct
    refine lists.put given (nodup_concat distinct stored) fun folded => ?_
    rw [List.map_append, List.mem_append, ← folds_of_given given, lists.same]
    exact or_congr_right List.mem_singleton

theorem remove (lists : Lists mapping store listed) (networkId value : String) :
    Lists mapping (ListCall.apply mapping store (.remove networkId value))
      (ListCall.meaning mapping listed (.remove networkId value)) := by
  simp only [ListCall.apply, ListCall.meaning, CaseListStore.remove]
  split_ifs with blank unchanged
  · exact lists
  all_goals
    have given := (not_or.mp blank).1
    have distinct := lists.distinct networkId
    have same := lists.same networkId
    rw [folds_of_given given] at distinct same
  · refine lists.stay fun folded => ?_
    rw [List.length_filter_eq_length_iff] at unchanged
    refine ⟨fun stored => ⟨stored, fun equal => ?_⟩, And.left⟩
    obtain ⟨entry, present, folds⟩ := List.mem_map.mp ((same folded).mpr stored)
    simpa [IrcCaseMapping.equals, folds, equal] using unchanged entry present
  · refine lists.put given (distinct.sublist (List.filter_sublist.map _)) fun folded => ?_
    refine Iff.trans ?_ (and_congr_left' (same folded))
    simp only [List.mem_map, List.mem_filter, IrcCaseMapping.equals, Bool.not_eq_true',
      beq_eq_false_iff_ne]
    constructor
    · rintro ⟨entry, ⟨stored, differs⟩, rfl⟩
      exact ⟨⟨entry, stored, rfl⟩, differs⟩
    · rintro ⟨⟨entry, stored, rfl⟩, differs⟩
      exact ⟨entry, ⟨stored, differs⟩, rfl⟩

theorem rekey (lists : Lists mapping store listed) (networkId old new : String) :
    Lists mapping (ListCall.apply mapping store (.rekey networkId old new))
      (ListCall.meaning mapping listed (.rekey networkId old new)) := by
  simp only [ListCall.apply, ListCall.meaning, CaseListStore.rekey]
  split_ifs with blank
  · exact lists
  have given := (not_or.mp blank).1
  have distinct := lists.distinct networkId
  have same := lists.same networkId
  rw [folds_of_given given] at distinct same
  split
  · rename_i missing
    have absent : (mapping networkId).normalize old ∉ listed networkId := by
      rw [← same]
      rw [List.findIdx?_eq_none_iff] at missing
      intro stored
      obtain ⟨entry, present, folds⟩ := List.mem_map.mp stored
      simpa [IrcCaseMapping.equals, folds] using missing entry present
    refine lists.stay fun folded => ⟨fun stored => .inl ⟨stored, ?_⟩, ?_⟩
    · exact fun equal => absent (equal ▸ stored)
    · exact Or.rec And.left fun named => absurd named.1 absent
  · rename_i index found
    obtain ⟨inside, hits, -⟩ := List.findIdx?_eq_some_iff_getElem.mp found
    have folds : (mapping networkId).normalize (store.lists networkId)[index] =
        (mapping networkId).normalize old := by simpa [IrcCaseMapping.equals] using hits
    have stored : (mapping networkId).normalize old ∈ listed networkId := by
      rw [← same, ← folds]
      exact List.mem_map_of_mem (List.getElem_mem inside)
    -- What is left folds to the spellings without the old one.
    have rest : ((store.lists networkId).eraseIdx index).map (mapping networkId).normalize =
        ((store.lists networkId).map (mapping networkId).normalize).erase
          ((mapping networkId).normalize old) := by
      have erased := distinct.erase_getElem index (by rw [List.length_map]; exact inside)
      rw [List.getElem_map, folds, List.eraseIdx_map] at erased
      exact erased.symm
    have gone (folded : String) : folded ∈ ((store.lists networkId).eraseIdx index).map
        (mapping networkId).normalize ↔
          folded ∈ listed networkId ∧ folded ≠ (mapping networkId).normalize old := by
      rw [rest, distinct.mem_erase_iff, same, and_comm]
    have fewer := distinct.erase ((mapping networkId).normalize old)
    rw [← rest] at fewer
    have entry : (store.lists networkId).getD index "" = (store.lists networkId)[index] := by
      rw [List.getD_eq_getElem?_getD, List.getElem?_eq_getElem inside, Option.getD_some]
    rw [entry]
    split_ifs with alike absorbed
    · rw [IrcCaseMapping.equals, beq_iff_eq, folds] at alike
      have still : ((store.lists networkId).set index new).map (mapping networkId).normalize =
          (store.lists networkId).map (mapping networkId).normalize := by
        rw [List.map_set, ← alike, ← folds, ← List.map_set, List.set_getElem_self]
      refine lists.put given (still ▸ distinct) fun folded => ?_
      rw [still, same]
      constructor
      · intro listed
        by_cases old : folded = (mapping networkId).normalize old
        · exact .inr ⟨stored, old.trans alike⟩
        · exact .inl ⟨listed, old⟩
      · rintro (⟨listed, -⟩ | ⟨-, rfl⟩)
        · exact listed
        · exact alike ▸ stored
    · refine lists.put given fewer fun folded => (gone folded).trans ?_
      rw [containsValue_iff, gone] at absorbed
      refine ⟨.inl, Or.rec id fun named => named.2 ▸ absorbed⟩
    · rw [containsValue_iff] at absorbed
      refine lists.put given (nodup_concat fewer absorbed) fun folded => ?_
      rw [List.map_append, List.mem_append, gone, List.map_singleton, List.mem_singleton]
      exact or_congr_right (and_iff_right stored).symm

theorem forget (lists : Lists mapping store listed) (networkId : String) :
    Lists mapping (ListCall.apply mapping store (.forget networkId))
      (ListCall.meaning mapping listed (.forget networkId)) := by
  simp only [ListCall.apply, ListCall.meaning, CaseListStore.forget]
  split_ifs with blank
  · refine lists.stay fun folded => ?_
    rw [← lists.same, folds, entries, if_pos blank]
    simp
  · exact lists.put blank List.nodup_nil fun folded => by simp

/-- Every run of calls keeps the lists a set of spellings. -/
theorem run (lists : Lists mapping store listed) (calls : List ListCall) :
    Lists mapping (calls.foldl (ListCall.apply mapping) store)
      (calls.foldl (ListCall.meaning mapping) listed) := by
  induction calls generalizing store listed with
  | nil => exact lists
  | cons call rest inductionHypothesis =>
      refine inductionHypothesis ?_
      cases call with
      | add networkId value => exact lists.add networkId value
      | remove networkId value => exact lists.remove networkId value
      | rekey networkId old new => exact lists.rekey networkId old new
      | forget networkId => exact lists.forget networkId

end Lists

/-- The lists are sets of spellings. In every run of additions, removals, renames and forgotten
networks each list holds a spelling once, and a name is stored exactly when the calls put its
spelling there and none took it away. -/
theorem contains_run (distinct : ∀ networkId, (store.folds mapping networkId).Nodup)
    (calls : List ListCall) (networkId value : String) :
    ((calls.foldl (ListCall.apply mapping) store).folds mapping networkId).Nodup ∧
      ((calls.foldl (ListCall.apply mapping) store).contains networkId value
          (mapping networkId) = true ↔
        networkId ≠ "" ∧ value ≠ "" ∧ (mapping networkId).normalize value ∈
          calls.foldl (ListCall.meaning mapping)
            (fun networkId => {folded | folded ∈ store.folds mapping networkId}) networkId) := by
  have lists : Lists mapping store fun networkId =>
      {folded | folded ∈ store.folds mapping networkId} := ⟨distinct, fun _ _ => Iff.rfl⟩
  exact ⟨(lists.run calls).distinct networkId,
    contains_iff.trans (by rw [(lists.run calls).same])⟩

/-- Nicks that are watched and one that is renamed, in fresh lists. -/
theorem contains_run_fresh :
    ((([.add "net" "amy", .add "net" "bob", .rekey "net" "amy" "eve"] : List ListCall).foldl
      (ListCall.apply fun _ => .ascii) {}).folds (fun _ => .ascii) "net").Nodup :=
  (contains_run (fun _ => by simp [folds, entries]) _ "net" "eve").1

end CaseListStore

end Omairc.Storage
