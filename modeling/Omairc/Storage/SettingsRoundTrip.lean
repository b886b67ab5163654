import Omairc.Storage.SettingsLines

/-!
# Reading a settings file that was written

A store reads back from its file. A list of one item reads back as that item, a group whose name
is `general` in other capitals as `General`, and a path whose first segment is empty at the top
level. A file is malformed when a key ends with an odd run of slashes.
-/

namespace Omairc.Ini

open Omairc.Text Omairc.Irc

/-- Whether a group has the name of the top level, in any case. -/
def isGeneral (group : String) : Bool := sameInAnyCase (utf8 group) (utf8 "general")

/-- What the header of a written section puts before the keys of the section. -/
def readSection (group : String) : String :=
  if group = "" then "" else if isGeneral group then "General/" else group ++ "/"

/-- Where a path reads back. -/
def readPath (path : String) : String :=
  readSection (splitSection path).1 ++ (splitSection path).2

/-- A store that was written and read. -/
def Settings.rewritten (settings : Settings) : Settings :=
  { values := parseSettingsIni settings.encode }

/-- Whether a path reads back where it was: its first segment, when it has several, is not empty
and is no other spelling of `General`. -/
def KeepsGroup (path : String) : Prop :=
  ∀ group key, splitTextOnce '/' path = some (group, key) →
    group ≠ "" ∧ (isGeneral group = true → group = "General")

theorem readPath_eq_iff (path : String) : readPath path = path ↔ KeepsGroup path := by
  rcases splitTextOnce_cases '/' path with ⟨-, none_⟩ | ⟨group, key, some_, -, shape⟩
  · have same : readPath path = path := by
      rw [readPath, splitSection, none_]
      show readSection "" ++ path = path
      rw [readSection, if_pos rfl, String.empty_append]
    exact ⟨fun _ group key found => (by rw [none_] at found; cases found), fun _ => same⟩
  · have whole : path = group ++ "/" ++ key := by
      refine String.toList_injective ?_
      rw [shape, String.toList_append, String.toList_append, List.append_assoc]
      rfl
    have read : readPath path = readSection group ++ key := by
      rw [readPath, splitSection, some_]
      rfl
    have split : KeepsGroup path ↔ group ≠ "" ∧ (isGeneral group = true → group = "General") := by
      constructor
      · exact fun keeps => keeps group key some_
      · intro keeps other rest found
        rw [some_, Option.some_inj, Prod.mk.injEq] at found
        rw [← found.1]
        exact keeps
    rw [read, split, readSection]
    by_cases top : group = ""
    · rw [if_pos top, String.empty_append]
      constructor
      · intro same
        have lengths := congrArg (fun text => text.toList.length) (same.trans whole)
        simp [top] at lengths
      · exact fun keeps => absurd top keeps.1
    rw [if_neg top]
    by_cases general : isGeneral group = true
    · rw [if_pos general]
      constructor
      · intro same
        have fronts : "General/" = group ++ "/" := by
          have lists := congrArg String.toList (same.trans whole)
          rw [String.toList_append, String.toList_append] at lists
          exact String.toList_injective (List.append_cancel_right lists)
        refine ⟨top, fun _ => ?_⟩
        have lists := congrArg String.toList fronts
        rw [String.toList_append] at lists
        exact (String.toList_injective
          (List.append_cancel_right (show "General".toList ++ ['/'] = _ from lists))).symm
      · rintro ⟨-, named⟩
        rw [whole, named general]
        rfl
    · rw [if_neg general]
      exact ⟨fun _ => ⟨top, fun named => absurd named general⟩, fun _ => whole.symm⟩

/-! ## Headers -/

/-- A name in letters is written as it is. -/
theorem iniEscapedKey_letters {name : String}
    (letters : ∀ character ∈ name.toList, isLiteralUnit character.toNat = true) :
    iniEscapedKey name = name := by
  have written : ∀ characters : List Char,
      (∀ character ∈ characters, isLiteralUnit character.toNat = true) →
      escapedKey characters = characters := by
    intro characters literal
    induction characters with
    | nil => rfl
    | cons character rest inductionHypothesis =>
        have own := literal character List.mem_cons_self
        have bound := (literalUnit_cases own).2.1
        have units : utf16Units character = [character.toNat] := by
          unfold utf16Units
          exact if_pos (bound.trans (by decide))
        have slash : character.toNat ≠ 0x2F := by
          intro same
          rw [same] at own
          cases own
        rw [escapedKey_cons, units,
          inductionHypothesis fun other there => literal other (List.mem_cons_of_mem _ there),
          List.flatMap_singleton, escapedUnit, if_neg slash, if_pos own, Char.ofNat_toNat]
        rfl
  rw [iniEscapedKey, written _ letters, String.ofList_toList]

/-- The bytes of `general` in any case are letters. -/
theorem letters_of_general {name : String} (general : isGeneral name = true) :
    ∀ character ∈ name.toList, isLiteralUnit character.toNat = true := by
  have letter : ∀ byte : UInt8, toAsciiLowercase byte ∈ utf8 "general" →
      byte.toNat < 128 ∧ isLiteralUnit byte.toNat = true :=
    byte_forall (by decide +kernel)
  have bytes : ∀ byte ∈ encode name.toList, byte.toNat < 128 ∧ isLiteralUnit byte.toNat = true := by
    intro byte listed
    refine letter byte ?_
    rw [isGeneral, sameInAnyCase, beq_iff_eq, utf8_eq_encode name] at general
    have lowered : toAsciiLowercase byte ∈ (utf8 "general").map toAsciiLowercase := by
      rw [← general]
      exact List.mem_map_of_mem listed
    exact lowered
  intro character listed
  have coded {byte : UInt8} (there : byte ∈ String.utf8EncodeChar character) :
      byte.toNat < 128 ∧ isLiteralUnit byte.toNat = true :=
    bytes byte (List.mem_flatMap.mpr ⟨character, listed, there⟩)
  obtain ⟨lead, rest, shape, -⟩ := utf8EncodeChar_cases character
  have there : lead ∈ String.utf8EncodeChar character := by
    rw [shape]
    exact List.mem_cons_self
  by_cases ascii : character.toNat < 128
  · have own : UInt8.ofNat character.toNat ∈ String.utf8EncodeChar character := by
      rw [utf8EncodeChar_of_lt ascii]
      exact List.mem_singleton_self _
    have single := coded own
    rw [UInt8.toNat_ofNat', Nat.mod_eq_of_lt (by omega)] at single
    exact single.2
  · have large := le_of_mem_utf8EncodeChar (Nat.le_of_not_lt ascii) there
    have small := (coded there).1
    omega

/-- A name is written as `general` in some case exactly when it is that. -/
theorem isGeneral_escaped (group : String) :
    isGeneral (iniEscapedKey group) = isGeneral group := by
  rw [Bool.eq_iff_iff]
  constructor
  · intro general
    have same := iniUnescapedKey_escaped (iniEscapedKey group)
    rw [iniEscapedKey_letters (letters_of_general general), iniUnescapedKey_escaped] at same
    rw [same]
    exact general
  · intro general
    rw [iniEscapedKey_letters (letters_of_general general)]
    exact general

/-- The character behind a percent sign is a digit or the letter `U`. -/
theorem escapedKey_percent {key : List Char} {second : Char} {rest : List Char}
    (written : escapedKey key = '%' :: second :: rest) : second ≠ 'g' ∧ second ≠ 'G' := by
  have digits : ∀ digit < 16, hexUpper digit ≠ 'g' ∧ hexUpper digit ≠ 'G' := by decide
  have digit (nibble : Nat) : hexUpper nibble ≠ 'g' ∧ hexUpper nibble ≠ 'G' := by
    rw [← hexUpper_mod]
    exact digits _ (Nat.mod_lt _ (by decide))
  cases units : encodeUtf16 key with
  | nil =>
      rw [escapedKey, units] at written
      cases written
  | cons unit others =>
      rw [escapedKey, units, List.flatMap_cons] at written
      unfold escapedUnit at written
      split at written
      · cases written
      split at written
      · rename_i literal
        rw [List.singleton_append, List.cons.injEq] at written
        have code := (literalUnit_cases literal).1
        rw [written.1] at code
        exact absurd code.symm (literalUnit_cases literal).2.2.2
      split at written
      · cases written
        exact digit _
      · cases written
        decide

/-- A written name is never `%general` in any case. -/
theorem not_percent_general (group : String) :
    sameInAnyCase (utf8 (iniEscapedKey group)) (utf8 "%general") = false := by
  rw [Bool.eq_false_iff]
  intro same
  have percent : ∀ byte : UInt8, toAsciiLowercase byte = 37 → byte = 37 :=
    byte_forall (by decide +kernel)
  have letter : ∀ byte : UInt8, toAsciiLowercase byte = 103 → byte = 103 ∨ byte = 71 :=
    byte_forall (by decide +kernel)
  rw [sameInAnyCase, beq_iff_eq, utf8_iniEscapedKey] at same
  cases bytes : encode (escapedKey group.toList) with
  | nil =>
      rw [bytes] at same
      cases same
  | cons first others =>
      cases others with
      | nil =>
          rw [bytes] at same
          have lengths : 1 = 8 := congrArg List.length same
          omega
      | cons second rest =>
          rw [bytes, List.map_cons, List.map_cons] at same
          have heads := List.cons.inj same
          have first_eq := percent first heads.1
          have second_eq := letter second (List.cons.inj heads.2).1
          subst first_eq
          obtain ⟨behind, written, remaining⟩ := encode_eq_cons bytes (by decide)
          have ascii : second.toNat < 128 := by
            rcases second_eq with rfl | rfl <;> decide
          obtain ⟨after, shape, -⟩ := encode_eq_cons remaining ascii
          rw [shape] at written
          obtain ⟨small, capital⟩ := escapedKey_percent written
          rcases second_eq with rfl | rfl
          · exact small rfl
          · exact capital rfl

/-- Bytes of a key are not trimmed. -/
theorem trimAscii_keys {bytes : Bytes} (keys : ∀ byte ∈ bytes, isAsciiWhitespace byte = false) :
    trimAscii bytes = bytes := by
  have front : bytes.dropWhile isAsciiWhitespace = bytes := by
    cases bytes with
    | nil => rfl
    | cons byte rest => rw [List.dropWhile_cons, keys byte List.mem_cons_self, if_neg Bool.false_ne_true]
  rw [trimAscii, front, List.rdropWhile_eq_self_iff]
  intro found
  rw [keys _ (List.getLast_mem found)]
  exact Bool.false_ne_true

/-- What stands between the brackets of a header. -/
theorem sectionPrefix_brackets {inner : Bytes} (keys : ∀ byte ∈ inner, isKeyByte byte = true) :
    sectionPrefix (91 :: inner ++ [93]) =
      if sameInAnyCase inner (utf8 "general") then ""
      else if sameInAnyCase inner (utf8 "%general") then fromUtf8Lossy (inner.drop 1) ++ "/"
      else iniUnescapedKey inner ++ "/" := by
  have closed : (inner ++ [93]).takeWhile (· != 93) = inner := by
    rw [List.takeWhile_append_of_pos]
    · simp
    · intro byte listed
      exact bne_iff_ne.mpr (keyByte_cases (keys byte listed)).2.2.2.2.2
  have trimmed : trimAscii inner = inner :=
    trimAscii_keys fun byte listed => (keyByte_cases (keys byte listed)).2.2.1
  have dropped : (91 :: inner ++ [93]).drop 1 = inner ++ [93] := rfl
  simp only [sectionPrefix, dropped, closed, trimmed]

/-- What a written header puts before the keys of its section. -/
theorem sectionPrefix_header {group : String} (slash : '/' ∉ group.toList) :
    sectionPrefix (utf8 (sectionHeader group)) = readSection group := by
  have empty : iniEscapedKey group = "" ↔ group = "" := by
    constructor
    · intro written
      have same := iniUnescapedKey_escaped group
      rw [written] at same
      exact same.symm
    · rintro rfl
      rfl
  have general : sameInAnyCase (utf8 (iniEscapedKey group)) (utf8 "general") = isGeneral group :=
    isGeneral_escaped group
  have brackets : utf8 ("[" ++ iniEscapedKey group ++ "]") =
      91 :: utf8 (iniEscapedKey group) ++ [93] := by
    rw [utf8_append, utf8_append]
    rfl
  have keys : ∀ byte ∈ utf8 (iniEscapedKey group), isKeyByte byte = true := by
    intro byte listed
    rw [utf8_iniEscapedKey] at listed
    exact keyByte_of_key slash listed
  unfold sectionHeader readSection
  dsimp only
  by_cases top : group = ""
  · rw [if_pos (empty.mpr top), if_pos top]
    decide
  rw [if_neg (fun written => top (empty.mp written)), if_neg top]
  by_cases named : isGeneral group = true
  · rw [general, if_pos named, if_pos named]
    decide
  · rw [general, if_neg named, if_neg named, brackets, sectionPrefix_brackets keys, general,
      if_neg named, not_percent_general, if_neg Bool.false_ne_true, iniUnescapedKey_escaped]

/-! ## Entries -/

theorem contains_iff {values : StringMap IniValue} {path : String} :
    values.contains path = true ↔ ∃ value, values[path]? = some value := by
  rw [Std.TreeMap.contains_eq_isSome_getElem?, Option.isSome_iff_exists]

/-- Where the entries of a file read back, in the order of the file. -/
def writtenEntries (settings : Settings) : List (String × IniValue) :=
  (sections settings.values).toList.flatMap fun entry =>
    (sorted entry.2).map fun held => (readSection entry.1 ++ held.1, held.2.readBack)

/-- The line of an entry reads as the entry. -/
theorem parseLine_entry (parsed : String × StringMap IniValue) {entry : String × IniValue}
    (even : endsOdd entry.1 = false) :
    parseLine parsed (entryLine entry) =
      (parsed.1, parsed.2.insert (parsed.1 ++ entry.1) entry.2.readBack) := by
  obtain ⟨first, others, begins, -, -, -, bracket⟩ :=
    entry_begins entry.1 (utf8 (encodeValue entry.2))
  have head : (entryLine entry).text.head? ≠ some 91 := by
    rw [entryLine, begins]
    exact fun same => bracket (Option.some_inj.mp same)
  have key : (entryLine entry).text.take (utf8 (iniEscapedKey entry.1)).length =
      utf8 (iniEscapedKey entry.1) :=
    List.take_left
  have value : (entryLine entry).text.drop ((utf8 (iniEscapedKey entry.1)).length + 1) =
      utf8 (encodeValue entry.2) := by
    rw [entryLine, ← List.drop_drop, List.drop_left]
    rfl
  have trimmed : trimAscii (utf8 (iniEscapedKey entry.1)) = utf8 (iniEscapedKey entry.1) := by
    refine trimAscii_keys fun byte listed => ?_
    rw [utf8_iniEscapedKey] at listed
    rcases keyByte_or_backslash listed with written | rfl
    · exact (keyByte_cases written).2.2.1
    · rfl
  have equals : (entryLine entry).equals = some (utf8 (iniEscapedKey entry.1)).length := by
    rw [entryLine, even]
    rfl
  rw [parseLine, if_neg head, equals]
  show (parsed.1, parsed.2.insert _ _) = _
  rw [key, value, trimmed, iniUnescapedKey_escaped, iniUnescapedStringList_encodeValue]

/-- The line of a header begins a section. -/
theorem parseLine_header (parsed : String × StringMap IniValue) {group : String}
    (slash : '/' ∉ group.toList) :
    parseLine parsed (headerLine group) = (readSection group, parsed.2) := by
  obtain ⟨inner, shape, -⟩ := sectionHeader_shape slash
  have head : (headerLine group).text.head? = some 91 := by
    rw [headerLine, shape]
    rfl
  rw [parseLine, if_pos head, headerLine, sectionPrefix_header slash]

/-- An entry is listed under its section when its path is stored. -/
theorem mem_sorted {settings : Settings} {group key : String} {value : IniValue}
    {entries : List (String × IniValue)}
    (found : (group, entries) ∈ (sections settings.values).toList) :
    (key, value) ∈ sorted entries ↔
      ∃ path, settings.values[path]? = some value ∧ splitSection path = (group, key) := by
  have held := Std.TreeMap.mem_toList_iff_getElem?_eq_some.mp found
  rw [← mem_sections, held, Option.getD_some, sorted, List.mem_mergeSort]

/-- Every stored path is listed under its section. -/
theorem section_of_path {settings : Settings} {path : String} {value : IniValue}
    (found : settings.values[path]? = some value) :
    ∃ entries, ((splitSection path).1, entries) ∈ (sections settings.values).toList ∧
      ((splitSection path).2, value) ∈ sorted entries := by
  have listed := (mem_sections settings.values (splitSection path).1 (splitSection path).2 value).mpr
    ⟨path, found, rfl⟩
  cases held : (sections settings.values)[(splitSection path).1]? with
  | none =>
      rw [held] at listed
      cases listed
  | some entries =>
      have there := Std.TreeMap.mem_toList_iff_getElem?_eq_some.mpr held
      exact ⟨entries, there, (mem_sorted there).mpr ⟨path, found, rfl⟩⟩

/-- A file whose keys end with even runs of slashes reads as its entries. -/
theorem parse_encode {settings : Settings}
    (even : ∀ path, settings.values.contains path = true → endsOdd (splitSection path).2 = false) :
    parseSettingsIni settings.encode =
      (writtenEntries settings).foldl (fun values entry => values.insert entry.1 entry.2) ∅ := by
  have entries_even : ∀ group entries, (group, entries) ∈ (sections settings.values).toList →
      ∀ entry ∈ sorted entries, endsOdd entry.1 = false := by
    intro group entries listed entry there
    obtain ⟨path, found, split⟩ := (mem_sorted listed).mp there
    have own := even path (contains_iff.mpr ⟨entry.2, found⟩)
    rw [split] at own
    exact own
  have section_ : ∀ (group : String) (entries : List (String × IniValue))
      (values : StringMap IniValue), (∀ entry ∈ entries, endsOdd entry.1 = false) →
      (entries.map entryLine).foldl parseLine (readSection group, values) =
        (readSection group, (entries.map fun held => (readSection group ++ held.1,
          held.2.readBack)).foldl (fun values entry => values.insert entry.1 entry.2) values) := by
    intro group entries
    induction entries with
    | nil => exact fun _ _ => rfl
    | cons entry rest inductionHypothesis =>
        intro values even
        rw [List.map_cons, List.map_cons, List.foldl_cons, List.foldl_cons,
          parseLine_entry _ (even entry List.mem_cons_self)]
        exact inductionHypothesis _ fun other there => even other (List.mem_cons_of_mem _ there)
  have file : ∀ (listed : List (String × List (String × IniValue))),
      (∀ entry ∈ listed, entry ∈ (sections settings.values).toList) →
      ∀ parsed : String × StringMap IniValue,
      ((listed.flatMap fun entry => sectionLines entry.1 entry.2).foldl parseLine parsed).2 =
        (listed.flatMap fun entry => (sorted entry.2).map fun held =>
          (readSection entry.1 ++ held.1, held.2.readBack)).foldl
            (fun values entry => values.insert entry.1 entry.2) parsed.2 := by
    intro listed
    induction listed with
    | nil => exact fun _ _ => rfl
    | cons entry rest inductionHypothesis =>
        intro there parsed
        have own := there entry List.mem_cons_self
        rw [List.flatMap_cons, List.flatMap_cons, List.foldl_append, List.foldl_append, sectionLines,
          List.foldl_cons, parseLine_header _ (section_slash own),
          section_ entry.1 _ _ (entries_even _ _ own)]
        exact inductionHypothesis (fun other later => there other (List.mem_cons_of_mem _ later)) _
  rw [parseSettingsIni, iniLines_encode]
  exact file _ (fun _ => id) ("", ∅)

theorem isMalformed_header {group : String} (slash : '/' ∉ group.toList) :
    (headerLine group).isMalformed = false := by
  obtain ⟨inner, shape, -⟩ := sectionHeader_shape slash
  rw [IniLine.isMalformed, headerLine, shape]
  simp

theorem isMalformed_entry (entry : String × IniValue) :
    (entryLine entry).isMalformed = endsOdd entry.1 := by
  obtain ⟨first, others, begins, -, -, semicolon, bracket⟩ :=
    entry_begins entry.1 (utf8 (encodeValue entry.2))
  have head : (entryLine entry).text.head? = some first := by
    rw [entryLine, begins]
    rfl
  have other : (some first != some (59 : UInt8)) = true :=
    bne_iff_ne.mpr fun same => semicolon (Option.some_inj.mp same)
  rw [IniLine.isMalformed, head, if_neg fun same => bracket (Option.some_inj.mp same), other,
    Bool.and_true, entryLine]
  cases endsOdd entry.1 <;> rfl

/-- A file is malformed exactly when a key ends with an odd run of slashes. -/
theorem malformed_encode (settings : Settings) :
    iniBytesAreMalformed settings.encode = true ↔
      ∃ path, settings.values.contains path = true ∧ endsOdd (splitSection path).2 = true := by
  rw [iniBytesAreMalformed, iniLines_encode, List.any_eq_true]
  constructor
  · rintro ⟨line, listed, malformed⟩
    obtain ⟨⟨group, entries⟩, there, line_⟩ := List.mem_flatMap.mp listed
    rcases List.mem_cons.mp line_ with rfl | entry_
    · rw [isMalformed_header (section_slash there)] at malformed
      cases malformed
    · obtain ⟨⟨key, value⟩, held, rfl⟩ := List.mem_map.mp entry_
      obtain ⟨path, found, split⟩ := (mem_sorted there).mp held
      rw [isMalformed_entry] at malformed
      refine ⟨path, contains_iff.mpr ⟨value, found⟩, ?_⟩
      rw [split]
      exact malformed
  · rintro ⟨path, there, odd⟩
    obtain ⟨value, found⟩ := contains_iff.mp there
    obtain ⟨entries, listed, held⟩ := section_of_path found
    refine ⟨entryLine ((splitSection path).2, value), ?_, ?_⟩
    · exact List.mem_flatMap.mpr
        ⟨_, listed, List.mem_cons_of_mem _ (List.mem_map.mpr ⟨_, held, rfl⟩)⟩
    · rw [isMalformed_entry]
      exact odd

/-- Every value reads back where its path does. -/
theorem mem_writtenEntries (settings : Settings) (path : String) (value : IniValue) :
    (path, value) ∈ writtenEntries settings ↔
      ∃ own held, settings.values[own]? = some held ∧ readPath own = path ∧
        held.readBack = value := by
  constructor
  · intro listed
    obtain ⟨⟨group, entries⟩, there, entry_⟩ := List.mem_flatMap.mp listed
    obtain ⟨⟨key, held⟩, member, same⟩ := List.mem_map.mp entry_
    obtain ⟨own, found, split⟩ := (mem_sorted there).mp member
    rw [Prod.mk.injEq] at same
    refine ⟨own, held, found, ?_, same.2⟩
    rw [readPath, split]
    exact same.1
  · rintro ⟨own, held, found, rfl, rfl⟩
    obtain ⟨entries, there, member⟩ := section_of_path found
    exact List.mem_flatMap.mpr ⟨_, there, List.mem_map.mpr ⟨_, member, rfl⟩⟩

/-! ## Stores -/

/-- A path is read from a file when some stored path reads back there. -/
theorem parse_encode_contains {settings : Settings}
    (even : ∀ path, settings.values.contains path = true → endsOdd (splitSection path).2 = false)
    (path : String) :
    (parseSettingsIni settings.encode).contains path = true ↔
      ∃ own, settings.values.contains own = true ∧ readPath own = path := by
  have folded : ∀ (listed : List (String × IniValue)) (values : StringMap IniValue),
      (listed.foldl (fun values entry => values.insert entry.1 entry.2) values).contains path =
        true ↔ values.contains path = true ∨ ∃ value, (path, value) ∈ listed := by
    intro listed
    induction listed with
    | nil => simp
    | cons entry rest inductionHypothesis =>
        intro values
        rw [List.foldl_cons, inductionHypothesis, Std.TreeMap.contains_insert, Bool.or_eq_true,
          compared_beq_eq, decide_eq_true_eq]
        constructor
        · rintro ((rfl | before) | ⟨value, later⟩)
          · exact .inr ⟨entry.2, List.mem_cons_self⟩
          · exact .inl before
          · exact .inr ⟨value, List.mem_cons_of_mem _ later⟩
        · rintro (before | ⟨value, listed⟩)
          · exact .inl (.inr before)
          · rcases List.mem_cons.mp listed with rfl | later
            · exact .inl (.inl rfl)
            · exact .inr ⟨value, later⟩
  rw [parse_encode even, folded]
  simp only [mem_writtenEntries, contains_iff]
  constructor
  · rintro (before | ⟨_, own, held, found, same, -⟩)
    · simp at before
    · exact ⟨own, ⟨held, found⟩, same⟩
  · rintro ⟨own, ⟨held, found⟩, same⟩
    exact .inr ⟨_, own, held, found, same, rfl⟩

/-- A file whose paths read back where they were holds what was written, value by value. -/
theorem parse_encode_getElem? {settings : Settings}
    (kept : ∀ path, settings.values.contains path = true →
      readPath path = path ∧ endsOdd (splitSection path).2 = false) (path : String) :
    (parseSettingsIni settings.encode)[path]? = settings.values[path]?.map IniValue.readBack := by
  have own {other : String} {held : IniValue} (found : settings.values[other]? = some held) :
      readPath other = other :=
    (kept other (contains_iff.mpr ⟨held, found⟩)).1
  rw [parse_encode fun path there => (kept path there).2]
  cases found : settings.values[path]? with
  | some value =>
      have agree : ∀ held, (path, held) ∈ writtenEntries settings → held = value.readBack := by
        intro held listed
        obtain ⟨other, stored, there, same, rfl⟩ := (mem_writtenEntries ..).mp listed
        rw [own there] at same
        rw [same, found] at there
        rw [Option.some_inj.mp there]
      have listed : path ∈ (writtenEntries settings).map Prod.fst :=
        List.mem_map.mpr ⟨(path, value.readBack),
          (mem_writtenEntries ..).mpr ⟨path, value, found, own found, rfl⟩, rfl⟩
      rw [getElem?_foldl_insert _ _ agree, if_pos listed]
      rfl
  | none =>
      have agree : ∀ held, (path, held) ∈ writtenEntries settings → held = IniValue.invalid := by
        intro held listed
        obtain ⟨other, stored, there, same, -⟩ := (mem_writtenEntries ..).mp listed
        rw [own there] at same
        rw [same, found] at there
        cases there
      have unlisted : path ∉ (writtenEntries settings).map Prod.fst := by
        intro listed
        obtain ⟨⟨_, held⟩, member, rfl⟩ := List.mem_map.mp listed
        obtain ⟨other, stored, there, same, -⟩ := (mem_writtenEntries ..).mp member
        rw [own there] at same
        rw [same, found] at there
        cases there
      rw [getElem?_foldl_insert _ _ agree, if_neg unlisted]
      rfl

end Omairc.Ini
