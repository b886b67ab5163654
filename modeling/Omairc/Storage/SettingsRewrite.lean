import Mathlib.Algebra.Order.BigOperators.Group.List
import Mathlib.Algebra.Order.Group.Nat
import Omairc.Storage.SettingsRoundTrip

/-!
# Rewriting a settings file

A file that is read and written keeps its groups, keys and values exactly when every path in it
reads back where it was and no key ends with an odd run of slashes. A file that is malformed or
cannot be read is never written.
-/

namespace Omairc.Ini

open Omairc.Text

/-! ## Values of a file -/

namespace ValueScan

variable {Shown : Type} (shown : Bytes → Shown)

/-- A list holds the items before its last comma. -/
def Listed (scan : ValueScan Shown) : Prop := scan.isList = true → scan.items ≠ []

variable {scan : ValueScan Shown}

theorem Listed.readNormal (listed : scan.Listed) (limit : Nat) (byte : UInt8) :
    (scan.readNormal shown limit byte).Listed := by
  unfold ValueScan.readNormal
  split
  · exact listed
  split
  · exact listed
  split
  · exact fun _ => List.append_ne_nil_of_right_ne_nil _ (List.cons_ne_nil _ _)
  · exact listed

theorem Listed.read (listed : scan.Listed) (byte : UInt8) : (scan.read shown byte).Listed := by
  have resumed (scan : ValueScan Shown) (listed : scan.Listed) :
      (scan.readResumed shown byte).Listed :=
    listed.readNormal shown scan.buf.length byte
  unfold ValueScan.read
  cases scan.step with
  | skipSpaces =>
      dsimp only
      split
      · exact listed
      · exact resumed scan listed
  | normal limit => exact listed.readNormal shown limit byte
  | escape =>
      dsimp only
      split
      · exact listed
      split
      · exact listed
      split
      · exact listed
      split
      · exact listed
      · exact listed
  | hexStart =>
      dsimp only
      split
      · exact listed
      · exact resumed scan listed
  | hexEscape value =>
      dsimp only
      split
      · exact listed
      · exact resumed (scan.push value) listed
  | octEscape value =>
      dsimp only
      split
      · exact listed
      · exact resumed (scan.push value) listed
  | lineBreak taken =>
      dsimp only
      split
      · exact listed
      · exact resumed scan listed

theorem Listed.run (listed : scan.Listed) (bytes : Bytes) : (scan.run shown bytes).Listed := by
  induction bytes generalizing scan with
  | nil => exact listed
  | cons byte rest inductionHypothesis => exact inductionHypothesis (listed.read shown byte)

end ValueScan

theorem readBack_sentinel (text : String) : (sentinel text).readBack = sentinel text := by
  have same : sentinel text = sentinel text := rfl
  conv_lhs at same => rw [sentinel]
  split at same
  · rw [← same]
    rfl
  split at same
  · rw [← same]
    rfl
  · rw [← same]
    exact same.symm
  · rw [← same]
    rfl

/-- The value of a file is read back as it is. -/
theorem readBack_unescaped (bytes : Bytes) :
    (iniUnescapedStringList bytes).readBack = iniUnescapedStringList bytes := by
  have start : ({} : ValueScan String).Listed := nofun
  have listed := start.run fromUtf8Lossy bytes
  rw [iniUnescapedStringList]
  split
  · rename_i isList
    obtain ⟨first, rest, shape⟩ := List.exists_cons_of_ne_nil (listed isList)
    rw [shape]
    cases rest with
    | nil => rfl
    | cons second rest => rfl
  · exact readBack_sentinel _

/-! ## Paths of a file -/

/-- The paths of the key lines, behind a section. -/
def linePaths (group : String) : List IniLine → List String
  | [] => []
  | line :: rest =>
      if line.text.head? = some 91 then linePaths (sectionPrefix line.text) rest
      else
        match line.equals with
        | none => linePaths group rest
        | some equals =>
            (group ++ iniUnescapedKey (trimAscii (line.text.take equals))) :: linePaths group rest

/-- The paths of the key lines of a file: the prefix of the section, and the key. -/
def keyPaths (content : Bytes) : List String := linePaths "" (iniLines (stripBom content))

/-- A file holds the paths of its key lines, and its values are read back as they are. -/
theorem foldl_parseLine (lines : List IniLine) (group : String) (values : StringMap IniValue)
    (read : ∀ (path : String) value, values[path]? = some value → value.readBack = value) :
    (∀ path : String, (lines.foldl parseLine (group, values)).2.contains path = true ↔
      values.contains path = true ∨ path ∈ linePaths group lines) ∧
    ∀ (path : String) value, (lines.foldl parseLine (group, values)).2[path]? = some value →
      value.readBack = value := by
  induction lines generalizing group values with
  | nil => exact ⟨fun path => by simp [linePaths], read⟩
  | cons line rest inductionHypothesis =>
      rw [List.foldl_cons, parseLine, linePaths]
      split
      · exact inductionHypothesis _ values read
      · cases line.equals with
        | none => exact inductionHypothesis group values read
        | some equals =>
            obtain ⟨contained, kept⟩ := inductionHypothesis group
              (values.insert (group ++ iniUnescapedKey (trimAscii (line.text.take equals)))
                (iniUnescapedStringList (line.text.drop (equals + 1)))) (by
                intro path value found
                rcases insert_found found with ⟨-, rfl⟩ | ⟨-, before⟩
                · exact readBack_unescaped _
                · exact read path value before)
            refine ⟨fun path => (contained path).trans ?_, kept⟩
            rw [Std.TreeMap.contains_insert, Bool.or_eq_true, compared_beq_eq, decide_eq_true_eq,
              List.mem_cons]
            constructor
            · rintro ((rfl | before) | later)
              · exact .inr (.inl rfl)
              · exact .inl before
              · exact .inr (.inr later)
            · rintro (before | rfl | later)
              · exact .inl (.inr before)
              · exact .inl (.inl rfl)
              · exact .inr later

theorem contains_parse (content : Bytes) (path : String) :
    (parseSettingsIni content).contains path = true ↔ path ∈ keyPaths content := by
  have parsed := (foldl_parseLine (iniLines (stripBom content)) "" ∅ (by simp)).1 path
  refine parsed.trans ?_
  simp [keyPaths]

theorem readBack_parse {content : Bytes} {path : String} {value : IniValue}
    (found : (parseSettingsIni content)[path]? = some value) : value.readBack = value :=
  (foldl_parseLine (iniLines (stripBom content)) "" ∅ (by simp)).2 path value found

/-! ## Stores that are kept -/

/-- A path that is kept when its file is rewritten. -/
def Rewritable (path : String) : Prop :=
  KeepsGroup path ∧ endsOdd (splitSection path).2 = false

/-- A path reads back with a leading slash only from the path with one slash more. -/
theorem readPath_leading {own path : String} (read : readPath own = path)
    (lead : path.toList.head? = some '/') : own.toList = '/' :: path.toList := by
  obtain ⟨behind, begins⟩ := List.head?_eq_some_iff.mp lead
  rcases splitTextOnce_cases '/' own with ⟨none_slash, none_⟩ | ⟨group, key, some_, apart, shape⟩
  · have same : readPath own = own :=
      (readPath_eq_iff own).mpr fun _ _ found => (by rw [none_] at found; cases found)
    rw [← same.symm.trans read] at begins
    rw [begins] at none_slash
    exact absurd List.mem_cons_self none_slash
  · rw [readPath, splitSection, some_] at read
    replace read : readSection group ++ key = path := read
    by_cases top : group = ""
    · rw [readSection, if_pos top, String.empty_append] at read
      rw [shape, top, read]
      rfl
    · exfalso
      obtain ⟨first, others, spelled⟩ :=
        List.exists_cons_of_ne_nil fun empty => top (String.toList_injective empty)
      rw [← read, readSection, if_neg top, String.toList_append] at begins
      split at begins
      · have heads := (List.cons.inj begins).1
        exact absurd heads (by decide)
      · rw [String.toList_append, spelled] at begins
        rw [spelled, (List.cons.inj begins).1] at apart
        exact apart List.mem_cons_self

/-- A store that reads back with the same paths has none that begins with a slash: behind every
such path there would be a longer one. -/
theorem no_leading_slash {settings : Settings}
    (same : ∀ path : String, settings.values.contains path = true ↔
      ∃ own, settings.values.contains own = true ∧ readPath own = path) {path : String}
    (there : settings.values.contains path = true) : path.toList.head? ≠ some '/' := by
  intro lead
  have longer (length : Nat) : ∃ own, settings.values.contains own = true ∧
      own.toList.head? = some '/' ∧ length ≤ own.toList.length := by
    induction length with
    | zero => exact ⟨path, there, lead, Nat.zero_le _⟩
    | succ length inductionHypothesis =>
        obtain ⟨shorter, held, slash, long⟩ := inductionHypothesis
        obtain ⟨own, listed, read⟩ := (same shorter).mp held
        have whole := readPath_leading read slash
        refine ⟨own, listed, ?_, ?_⟩
        · rw [whole]
          rfl
        · rw [whole, List.length_cons]
          omega
  obtain ⟨own, held, -, long⟩ :=
    longer ((settings.values.keys.map fun key => key.toList.length).sum + 1)
  have listed : own ∈ settings.values.keys := Std.TreeMap.mem_keys.mpr held
  have bound : own.toList.length ≤
      (settings.values.keys.map fun key => key.toList.length).sum :=
    List.le_sum_of_mem (List.mem_map.mpr ⟨own, listed, rfl⟩)
  omega

/-- A store that reads back with the same paths keeps every one of them. -/
theorem keepsGroup_of_same {settings : Settings}
    (same : ∀ path : String, settings.values.contains path = true ↔
      ∃ own, settings.values.contains own = true ∧ readPath own = path) {path : String}
    (there : settings.values.contains path = true) : KeepsGroup path := by
  intro group key split
  have parts {whole first behind : String} (cut : splitTextOnce '/' whole = some (first, behind)) :
      '/' ∉ first.toList ∧ whole.toList = first.toList ++ '/' :: behind.toList := by
    rcases splitTextOnce_cases '/' whole with ⟨-, none_⟩ | ⟨other, rest, some_, apart, shape⟩
    · rw [none_] at cut
      cases cut
    · rw [some_, Option.some_inj, Prod.mk.injEq] at cut
      rw [← cut.1, ← cut.2]
      exact ⟨apart, shape⟩
  obtain ⟨apart, shape⟩ := parts split
  refine ⟨?_, fun general => ?_⟩
  · rintro rfl
    refine no_leading_slash same there ?_
    rw [shape]
    rfl
  -- The path reads back from a path of its own: that one's group is this group, or `General`.
  obtain ⟨own, held, read⟩ := (same path).mp there
  rcases splitTextOnce_cases '/' own with ⟨-, none_⟩ | ⟨first, behind, some_, free, whole⟩
  · have unmoved : readPath own = own :=
      (readPath_eq_iff own).mpr fun _ _ found => (by rw [none_] at found; cases found)
    rw [← read, unmoved, none_] at split
    cases split
  · have unslashed : first ≠ "" := by
      rintro rfl
      refine no_leading_slash same held ?_
      rw [whole]
      rfl
    rw [readPath, splitSection, some_] at read
    replace read : readSection first ++ behind = path := read
    have fronts {name : String} (free : '/' ∉ name.toList)
        (prefixed : readSection first = name ++ "/") : group = name := by
      have lists : name.toList ++ '/' :: behind.toList = group.toList ++ '/' :: key.toList := by
        rw [← shape, ← read, prefixed, String.toList_append, String.toList_append,
          List.append_assoc]
        rfl
      have front {text : List Char} (unsplit : '/' ∉ text) (rest : List Char) :
          (text ++ '/' :: rest).takeWhile (· != '/') = text := by
        have passed : ∀ character ∈ text, (character != '/') = true := by
          intro character listed
          rw [bne_iff_ne]
          rintro rfl
          exact unsplit listed
        rw [List.takeWhile_append_of_pos passed]
        simp
      apply String.toList_injective
      rw [← front apart key.toList, ← lists, front free]
    rw [readSection, if_neg unslashed] at fronts
    by_cases named : isGeneral first = true
    · exact fronts (show '/' ∉ "General".toList by decide) (if_pos named)
    · have own_ := fronts free (if_neg named)
      rw [own_] at general
      exact absurd general named

/-- A store whose values are read back as they are is rewritten as it was, and well formed, exactly
when every path is kept. -/
theorem rewritten_iff (settings : Settings)
    (read : ∀ (path : String) value, settings.values[path]? = some value →
      value.readBack = value) :
    ((∀ path : String, settings.rewritten.values[path]? = settings.values[path]?) ∧
      iniBytesAreMalformed settings.encode = false) ↔
      ∀ path : String, settings.values.contains path = true → Rewritable path := by
  constructor
  · rintro ⟨unchanged, formed⟩
    have even (path : String) (there : settings.values.contains path = true) :
        endsOdd (splitSection path).2 = false := by
      rw [Bool.eq_false_iff]
      intro odd
      rw [(malformed_encode settings).mpr ⟨path, there, odd⟩] at formed
      cases formed
    have same (path : String) : settings.values.contains path = true ↔
        ∃ own, settings.values.contains own = true ∧ readPath own = path := by
      rw [← parse_encode_contains even path, contains_iff, contains_iff]
      show _ ↔ ∃ value, settings.rewritten.values[path]? = some value
      rw [unchanged path]
    exact fun path there => ⟨keepsGroup_of_same same there, even path there⟩
  · intro kept
    constructor
    · intro path
      have whole := parse_encode_getElem?
        (fun path there => ⟨(readPath_eq_iff path).mpr (kept path there).1, (kept path there).2⟩)
        path
      refine whole.trans ?_
      cases found : settings.values[path]? with
      | none => rfl
      | some value => exact congrArg some (read path value found)
    · rw [Bool.eq_false_iff]
      intro malformed
      obtain ⟨path, there, odd⟩ := (malformed_encode settings).mp malformed
      rw [(kept path there).2] at odd
      cases odd

/-! ## Refusals -/

/-- A file that is malformed or cannot be read is left as it is. -/
theorem sync_refuses (settings : Settings) {disk : Disk} (lands : Bool)
    (refused : probeIni disk ≠ .ok) : (settings.sync disk lands).2.1 = disk := by
  rw [Settings.sync, Settings.writeBlocked]
  cases probed : probeIni disk with
  | ok => exact absurd probed refused
  | malformed => rfl
  | unreadable => rfl

/-- What a file holds, loaded and stored again, is what it held, and the bytes are well formed,
exactly when the path of each key line is kept. A file that is malformed or cannot be read is never
written. -/
theorem rewrite_keeps_iff (content : Bytes) :
    ((∀ path : String, ({ values := parseSettingsIni content } : Settings).rewritten.values[path]? =
          (parseSettingsIni content)[path]?) ∧
        iniBytesAreMalformed ({ values := parseSettingsIni content } : Settings).encode = false ↔
        ∀ path ∈ keyPaths content, Rewritable path) ∧
      ∀ (settings : Settings) (disk : Disk) (lands : Bool), probeIni disk ≠ .ok →
        (settings.sync disk lands).2.1 = disk := by
  refine ⟨?_, fun settings disk lands refused => sync_refuses settings lands refused⟩
  have iff := rewritten_iff { values := parseSettingsIni content }
    fun path value found => readBack_parse found
  refine iff.trans (forall_congr' fun path => ?_)
  exact imp_congr_left (contains_parse content path)

/-- The key `a/` is written as `a\=1`, whose equals sign is escaped: the rewritten file is
malformed and holds no key. -/
theorem slash_key_breaks :
    (parseSettingsIni (utf8 "[s]\na%2F=1"))["s/a/"]? = some (.text "1") ∧
      probeIni (.file (utf8 "[s]\na%2F=1") true) = .ok ∧
      iniBytesAreMalformed
        ({ values := parseSettingsIni (utf8 "[s]\na%2F=1") } : Settings).encode = true := by
  decide +kernel

end Omairc.Ini
