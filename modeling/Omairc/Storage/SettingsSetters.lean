import Omairc.Session.Reference
import Omairc.Storage.SettingsRoundTrip

/-!
# Queries after a store was written and read

After any calls of the setters, a store that is written and read answers as before, apart from
what the format does not keep: a list of one item reads as that item, and a group named `general`
in other capitals as `General`.
-/

namespace Omairc.Ini

open Omairc.Text

/-! ## Paths -/

/-- Whether the first segment of a path is another spelling of `General`. -/
def otherGeneral (path : String) : Bool :=
  (splitTextOnce '/' path).any fun parts => isGeneral parts.1 && parts.1 != "General"

/-- Whether every segment of a path is named. -/
def NamedPath (path : String) : Prop := "" ∉ splitText '/' path

instance (path : String) : Decidable (NamedPath path) :=
  inferInstanceAs (Decidable ("" ∉ splitText '/' path))

/-- A named path does not end with a slash. -/
theorem NamedPath.last {path : String} (named : NamedPath path) :
    path.toList.getLast? ≠ some '/' := by
  intro last
  obtain ⟨front, shape⟩ := List.getLast?_eq_some_iff.mp last
  refine named (List.mem_map.mpr ⟨[], ?_, rfl⟩)
  rw [shape, List.splitOn_append_cons_self, List.splitOn_nil]
  exact List.mem_append_right _ (List.mem_singleton_self _)

/-- A named path does not begin with a slash. -/
theorem NamedPath.head {path : String} (named : NamedPath path) :
    path.toList.head? ≠ some '/' := by
  intro head
  obtain ⟨rest, shape⟩ := List.head?_eq_some_iff.mp head
  refine named (List.mem_map.mpr ⟨[], ?_, rfl⟩)
  rw [shape, ← List.nil_append ('/' :: rest), List.splitOn_append_cons_self, List.splitOn_nil]
  exact List.mem_cons_self

theorem openSlash_last (odd : Bool) {key : List Char} {last : Char} (found : key.getLast? = some last)
    (slash : last ≠ '/') : openSlash odd key = false := by
  obtain ⟨front, rfl⟩ := List.getLast?_eq_some_iff.mp found
  rw [openSlash, List.foldl_append, List.foldl_cons, List.foldl_nil, beq_false_of_ne slash,
    Bool.false_and]

/-- The key of a named path ends with no slash. -/
theorem NamedPath.even {path : String} (named : NamedPath path) :
    endsOdd (splitSection path).2 = false := by
  have ends {key : String} (slash : key.toList.getLast? ≠ some '/') : endsOdd key = false := by
    rw [endsOdd]
    cases found : key.toList.getLast? with
    | none =>
        rw [List.getLast?_eq_none_iff.mp found]
        rfl
    | some last => exact openSlash_last false found fun same => slash (same ▸ found)
  rw [splitSection]
  rcases splitTextOnce_cases '/' path with ⟨-, none_⟩ | ⟨group, key, some_, -, shape⟩
  · rw [none_]
    exact ends named.last
  · rw [some_]
    refine ends fun last => named.last ?_
    have own : key.toList.getLast? = some '/' := last
    rw [shape, List.getLast?_append, List.getLast?_cons, own]
    rfl

/-- The first segment of a named path is not empty. -/
theorem NamedPath.group {path : String} (named : NamedPath path) {group key : String}
    (split : splitTextOnce '/' path = some (group, key)) : group ≠ "" := by
  rintro rfl
  rcases splitTextOnce_cases '/' path with ⟨-, none_⟩ | ⟨group, key, some_, -, shape⟩
  · rw [none_] at split
    cases split
  · rw [some_, Option.some_inj, Prod.mk.injEq] at split
    rw [split.1] at shape
    exact named.head (by rw [shape]; rfl)

/-! ## Setters -/

/-- One call of a setter. -/
inductive Setter
  | value (group key text : String)
  | bool (group key : String) (flag : Bool)
  | uint (group key : String) (number : Nat)
  | int (group key : String) (number : Int)
  | stringList (group key : String) (values : List String)
  | removeKey (group key : String)
  | removeGroup (group : String)

namespace Setter

def apply (settings : Settings) : Setter → Settings
  | .value group key text => settings.setValue group key text
  | .bool group key flag => settings.setBool group key flag
  | .uint group key number => settings.setUint group key number
  | .int group key number => settings.setInt group key number
  | .stringList group key values => settings.setStringList group key values
  | .removeKey group key => settings.removeKey group key
  | .removeGroup group => settings.removeGroup group

/-- The path that a call stores under. -/
def path : Setter → Option String
  | .value group key _ => some (settingsKey group key)
  | .bool group key _ => some (settingsKey group key)
  | .uint group key _ => some (settingsKey group key)
  | .int group key _ => some (settingsKey group key)
  | .stringList group key _ => some (settingsKey group key)
  | .removeKey _ _ => none
  | .removeGroup _ => none

end Setter

/-- Stored values are strings and lists. -/
def IniValue.isPlain : IniValue → Bool
  | .text _ => true
  | .list _ => true
  | _ => false

/-- What one call stores is what was there, or a string or a list under its path. -/
theorem Setter.apply_found {settings : Settings} {call : Setter} {path : String} {value : IniValue}
    (found : (call.apply settings).values[path]? = some value) :
    settings.values[path]? = some value ∨ call.path = some path ∧ value.isPlain = true := by
  have stored {group key : String} (held : IniValue) (plain : held.isPlain = true)
      (found : (settings.store group key held).values[path]? = some value) :
      settings.values[path]? = some value ∨
        some (settingsKey group key) = some path ∧ value.isPlain = true := by
    rcases insert_found found with ⟨same, rfl⟩ | ⟨-, before⟩
    · exact .inr ⟨congrArg some same.symm, plain⟩
    · exact .inl before
  cases call with
  | value group key text => exact stored (.text text) rfl found
  | bool group key flag => exact stored (.text (if flag then "true" else "false")) rfl found
  | uint group key number => exact stored (.text (toString number)) rfl found
  | int group key number => exact stored (.text (toString number)) rfl found
  | stringList group key values => exact stored (.list values) rfl found
  | removeKey group key =>
      left
      rw [Setter.apply, Settings.removeKey] at found
      split at found
      · exact (erase_found found).2
      · exact found
  | removeGroup group =>
      left
      rw [Setter.apply, Settings.removeGroup] at found
      dsimp only at found
      split at found
      · simp at found
      · exact (filter_found found).2

/-- What calls store on an empty store is strings and lists under their paths. -/
theorem Setter.run_found (calls : List Setter) {settings : Settings} {path : String}
    {value : IniValue} (found : (calls.foldl Setter.apply settings).values[path]? = some value) :
    settings.values[path]? = some value ∨
      (∃ call ∈ calls, call.path = some path) ∧ value.isPlain = true := by
  induction calls generalizing settings with
  | nil => exact .inl found
  | cons call rest inductionHypothesis =>
      rcases inductionHypothesis found with before | ⟨⟨later, listed, under⟩, plain⟩
      · rcases Setter.apply_found before with earlier | ⟨under, plain⟩
        · exact .inl earlier
        · exact .inr ⟨⟨call, List.mem_cons_self, under⟩, plain⟩
      · exact .inr ⟨⟨later, List.mem_cons_of_mem _ listed, under⟩, plain⟩

/-! ## Answers -/

/-- The answers that the format keeps: the groups, which keys there are, every answer on a key that
holds no list of one item, and for such a list, unless the item starts with an at sign, the item as
a string. -/
structure AnswersAlike [Platform] (before after : Settings) : Prop where
  childGroups : ∀ group, after.childGroups group = before.childGroups group
  contains : ∀ group key, after.contains group key = before.contains group key
  value : ∀ group key, (∀ item, before.values[settingsKey group key]? ≠ some (.list [item])) →
    after.value group key = before.value group key
  boolValue : ∀ group key fallback,
    (∀ item, before.values[settingsKey group key]? ≠ some (.list [item])) →
      after.boolValue group key fallback = before.boolValue group key fallback
  uintValue : ∀ group key fallback,
    (∀ item, before.values[settingsKey group key]? ≠ some (.list [item])) →
      after.uintValue group key fallback = before.uintValue group key fallback
  intValue : ∀ group key fallback,
    (∀ item, before.values[settingsKey group key]? ≠ some (.list [item])) →
      after.intValue group key fallback = before.intValue group key fallback
  stringList : ∀ group key,
    (∀ item, before.values[settingsKey group key]? ≠ some (.list [item])) →
      after.stringList group key = before.stringList group key
  single : ∀ group key item, before.values[settingsKey group key]? = some (.list [item]) →
    startsWithChar item '@' = false → after.value group key = item ∧
      after.stringList group key = some (if item = "" then [] else [item])

theorem IniValue.readBack_plain {value : IniValue} (plain : value.isPlain = true)
    (several : ∀ item, value ≠ .list [item]) :
    value.readBack = value ∨ value = .list [] ∧ value.readBack = .invalid := by
  cases value with
  | text _ => exact .inl rfl
  | variant _ => cases plain
  | invalid => cases plain
  | list items =>
      match items with
      | [] => exact .inr ⟨rfl, rfl⟩
      | [item] => exact absurd rfl (several item)
      | _ :: _ :: _ => exact .inl rfl

/-- A store of strings and lists whose values read back under their paths answers alike. -/
theorem answersAlike [Platform] {before after : Settings}
    (plain : ∀ (path : String) value, before.values[path]? = some value → value.isPlain = true)
    (read : ∀ path : String, after.values[path]? = before.values[path]?.map IniValue.readBack) :
    AnswersAlike before after := by
  have contained (path : String) : after.values.contains path = before.values.contains path := by
    rw [Std.TreeMap.contains_eq_isSome_getElem?, Std.TreeMap.contains_eq_isSome_getElem?, read,
      Option.isSome_map]
  have text (group key : String)
      (several : ∀ item, before.values[settingsKey group key]? ≠ some (.list [item])) :
      after.text group key = before.text group key ∧
        after.stringList group key = before.stringList group key := by
    rw [Settings.text, Settings.text, Settings.stringList, Settings.stringList, read]
    cases found : before.values[settingsKey group key]? with
    | none => exact ⟨rfl, rfl⟩
    | some value =>
        rw [found] at several
        rcases IniValue.readBack_plain (plain _ value found)
            (fun item same => several item (congrArg some same)) with same | ⟨rfl, same⟩
        · rw [Option.map_some, same]
          exact ⟨rfl, rfl⟩
        · rw [Option.map_some, same]
          exact ⟨rfl, rfl⟩
  refine ⟨?_, ?_, ?_, ?_, ?_, ?_, ?_, ?_⟩
  · intro group
    rw [Settings.childGroups, Settings.childGroups, keys_congr contained]
  · exact fun group key => contained _
  · intro group key several
    rw [Settings.value, Settings.value, (text group key several).1]
  · intro group key fallback several
    rw [Settings.boolValue, Settings.boolValue, (text group key several).1]
  · intro group key fallback several
    rw [Settings.uintValue, Settings.uintValue, (text group key several).1]
  · intro group key fallback several
    rw [Settings.intValue, Settings.intValue, (text group key several).1]
  · exact fun group key several => (text group key several).2
  · intro group key item found at_
    have own : after.values[settingsKey group key]? = some (.text item) := by
      rw [read, found, Option.map_some]
      exact congrArg some (sentinel_plain at_)
    rw [Settings.value, Settings.text, Settings.stringList, own]
    exact ⟨rfl, rfl⟩

/-- After any calls of the setters under named paths, none of whose first segments is another
spelling of `General`, the encoding is well formed and reads as a store that answers alike. -/
theorem settings_round_trip [Platform] (calls : List Setter)
    (named : ∀ call ∈ calls, ∀ path, call.path = some path → NamedPath path)
    (general : ∀ call ∈ calls, ∀ path, call.path = some path → otherGeneral path = false) :
    iniBytesAreMalformed (calls.foldl Setter.apply {}).encode = false ∧
      AnswersAlike (calls.foldl Setter.apply {}) (calls.foldl Setter.apply {}).rewritten := by
  have stored {path : String} {value : IniValue}
      (found : (calls.foldl Setter.apply {}).values[path]? = some value) :
      (∃ call ∈ calls, call.path = some path) ∧ value.isPlain = true := by
    rcases Setter.run_found calls found with before | stored
    · simp at before
    · exact stored
  have kept (path : String) (there : (calls.foldl Setter.apply {}).values.contains path = true) :
      readPath path = path ∧ endsOdd (splitSection path).2 = false := by
    obtain ⟨value, found⟩ := contains_iff.mp there
    obtain ⟨⟨call, listed, under⟩, -⟩ := stored found
    have own := named call listed path under
    refine ⟨(readPath_eq_iff path).mpr fun group key split => ⟨own.group split, ?_⟩, own.even⟩
    intro spelled
    have other := general call listed path under
    rw [otherGeneral, split, Option.any_some, spelled, Bool.true_and, bne_eq_false_iff_eq] at other
    exact other
  refine ⟨Bool.eq_false_iff.mpr fun malformed => ?_, answersAlike ?_ ?_⟩
  · obtain ⟨path, there, odd⟩ := (malformed_encode _).mp malformed
    rw [(kept path there).2] at odd
    cases odd
  · exact fun path value found => (stored found).2
  · exact parse_encode_getElem? kept

section Witness

local instance settersPlatform : Platform := Session.reference

/-- A string that looks like another encoding, and an empty item in a list. -/
private def awkwardCalls : List Setter :=
  [.value "networks/a" "host" "@x;y", .stringList "" "nicks" ["", "@b"]]

theorem settings_round_trip_awkward :
    AnswersAlike (awkwardCalls.foldl Setter.apply {})
        (awkwardCalls.foldl Setter.apply {}).rewritten ∧
      (awkwardCalls.foldl Setter.apply {}).value "networks/a" "host" = "@x;y" := by
  have paths : ∀ call ∈ awkwardCalls, ∀ path, call.path = some path →
      path = "networks/a/host" ∨ path = "nicks" := by
    intro call listed path under
    rcases List.mem_cons.mp listed with rfl | later
    · exact .inl (Option.some_inj.mp under).symm
    · rw [List.mem_singleton] at later
      subst later
      exact .inr (Option.some_inj.mp under).symm
  have named : ∀ call ∈ awkwardCalls, ∀ path, call.path = some path → NamedPath path := by
    intro call listed path under
    rcases paths call listed path under with rfl | rfl <;> decide
  have general : ∀ call ∈ awkwardCalls, ∀ path, call.path = some path →
      otherGeneral path = false := by
    intro call listed path under
    rcases paths call listed path under with rfl | rfl <;> decide
  exact ⟨(settings_round_trip awkwardCalls named general).2, by decide⟩

end Witness

/-- A list of one item reads back as a string, and a group named `general` as `General`. -/
theorem list_and_general_drift :
    (([Setter.stringList "g" "k" ["a"]].foldl Setter.apply {}).value "g" "k" = "" ∧
      ([Setter.stringList "g" "k" ["a"]].foldl Setter.apply {}).rewritten.value "g" "k" = "a") ∧
    (([Setter.value "general" "k" "a"].foldl Setter.apply {}).contains "general" "k" = true ∧
      ([Setter.value "general" "k" "a"].foldl Setter.apply {}).rewritten.contains "general" "k" =
        false) := by
  decide +kernel

end Omairc.Ini
