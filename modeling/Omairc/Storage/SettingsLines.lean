import Omairc.Storage.IniValueRoundTrip
import Omairc.Storage.SettingsFile
import Omairc.Text.Maps

/-!
# The lines of a written settings file

A section is its header and one line for each key. A key that ends with an odd run of slashes
takes the equals sign behind it, and its line is malformed.
-/

namespace Omairc.Ini

open Omairc.Text Omairc.Irc

/-! ## The bytes of a key -/

/-- A byte that a key is written with, apart from the backslash. -/
def isKeyByte (byte : UInt8) : Bool :=
  isAsciiAlphanumeric byte || byte == 45 || byte == 46 || byte == 95 || byte == 37

/-- Key bytes are plain, and begin neither a comment nor a header. -/
theorem keyByte_cases {byte : UInt8} (key : isKeyByte byte = true) :
    isPlainByte byte = true ∧ iniSpace byte = false ∧ isAsciiWhitespace byte = false ∧ byte ≠ 35 ∧
      byte ≠ 91 ∧ byte ≠ 93 := by
  have all : ∀ byte : UInt8, isKeyByte byte = true → isPlainByte byte = true ∧
      iniSpace byte = false ∧ isAsciiWhitespace byte = false ∧ byte ≠ 35 ∧ byte ≠ 91 ∧ byte ≠ 93 :=
    byte_forall (by decide +kernel)
  exact all byte key

theorem keyByte_of_escapedUnit {unit : Nat} (slash : unit ≠ 0x2F) {character : Char}
    (listed : character ∈ escapedUnit unit) : isKeyByte (UInt8.ofNat character.toNat) = true := by
  have digits : ∀ digit < 16, isKeyByte (UInt8.ofNat (hexUpper digit).toNat) = true := by decide
  have digit (nibble : Nat) : isKeyByte (UInt8.ofNat (hexUpper nibble).toNat) = true := by
    rw [← hexUpper_mod]
    exact digits _ (Nat.mod_lt _ (by decide))
  unfold escapedUnit at listed
  rw [if_neg slash] at listed
  split at listed
  · rename_i literal
    have below : ∀ unit < 128, isLiteralUnit unit = true →
        isKeyByte (UInt8.ofNat unit) = true := by
      decide
    obtain ⟨code, bound, -⟩ := literalUnit_cases literal
    rw [List.mem_singleton] at listed
    rw [listed, code]
    exact below unit bound literal
  split at listed
  · simp only [List.mem_cons, List.not_mem_nil, or_false] at listed
    rcases listed with rfl | rfl | rfl
    · decide
    · exact digit _
    · exact digit _
  · simp only [List.mem_cons, List.not_mem_nil, or_false] at listed
    rcases listed with rfl | rfl | rfl | rfl | rfl | rfl
    · decide
    · decide
    all_goals exact digit _

theorem units_of_slash : utf16Units '/' = [0x2F] := by decide

theorem slash_of_units {character : Char} (listed : 0x2F ∈ utf16Units character) :
    character = '/' := by
  unfold utf16Units at listed
  dsimp only at listed
  split at listed
  · rw [List.mem_singleton] at listed
    exact Char.ext (UInt32.toNat_inj.mp listed.symm)
  · rw [List.mem_cons, List.mem_singleton] at listed
    omega

/-- The bytes of a character of a key, other than the slash. -/
theorem keyByte_of_character {character : Char} (slash : character ≠ '/') {byte : UInt8}
    (listed : byte ∈ encode ((utf16Units character).flatMap escapedUnit)) :
    isKeyByte byte = true := by
  obtain ⟨written, there, coded⟩ := List.mem_flatMap.mp listed
  obtain ⟨unit, of_character, of_unit⟩ := List.mem_flatMap.mp there
  have ascii := escapedUnit_ascii of_unit
  rw [utf8EncodeChar_of_lt ascii, List.mem_singleton] at coded
  rw [coded]
  exact keyByte_of_escapedUnit (fun same => slash (slash_of_units (same ▸ of_character))) of_unit

theorem escapedKey_cons (character : Char) (rest : List Char) :
    escapedKey (character :: rest) = (utf16Units character).flatMap escapedUnit ++
      escapedKey rest := by
  rw [escapedKey, encodeUtf16, List.flatMap_cons, List.flatMap_append]
  rfl

/-- The bytes of a key without slashes. -/
theorem keyByte_of_key {key : List Char} (slash : '/' ∉ key) {byte : UInt8}
    (listed : byte ∈ encode (escapedKey key)) : isKeyByte byte = true := by
  induction key with
  | nil => cases listed
  | cons character rest inductionHypothesis =>
      rw [List.mem_cons, not_or] at slash
      rw [escapedKey_cons, encode_append, List.mem_append] at listed
      rcases listed with front | back
      · exact keyByte_of_character (Ne.symm slash.1) front
      · exact inductionHypothesis slash.2 back

/-- The bytes of any key. -/
theorem keyByte_or_backslash {key : List Char} {byte : UInt8}
    (listed : byte ∈ encode (escapedKey key)) : isKeyByte byte = true ∨ byte = 92 := by
  induction key with
  | nil => cases listed
  | cons character rest inductionHypothesis =>
      rw [escapedKey_cons, encode_append, List.mem_append] at listed
      rcases listed with front | back
      · by_cases slash : character = '/'
        · rw [slash, units_of_slash] at front
          exact .inr (List.mem_singleton.mp front)
        · exact .inl (keyByte_of_character slash front)
      · exact inductionHypothesis back

/-! ## A key on its line -/

/-- Whether a backslash is open behind the slashes so far. -/
def openSlash (odd : Bool) (key : List Char) : Bool :=
  key.foldl (fun odd character => character == '/' && !odd) odd

/-- Whether a key ends with an odd run of slashes. -/
def endsOdd (key : String) : Bool := openSlash false key.toList

namespace LineScan

/-- The mode of a key on its line. -/
def slashMode (odd : Bool) : LineMode := if odd then .escaped false else .body false

/-- A backslash is taken into the line, and takes the next byte unless it was taken itself. -/
theorem reads_slash (odd : Bool) (line : Bytes) (equals : Option Nat) :
    Reads ⟨slashMode odd, ⟨line, equals⟩⟩ [92]
      ⟨slashMode !odd, ⟨line ++ [92], equals⟩⟩ := by
  cases odd with
  | false => exact .single rfl
  | true => exact .single rfl

/-- Key bytes are taken into the line. -/
theorem reads_keyBytes (odd : Bool) (line : Bytes) (equals : Option Nat) {bytes : Bytes}
    (some_ : bytes ≠ []) (keys : ∀ byte ∈ bytes, isKeyByte byte = true) :
    Reads ⟨slashMode odd, ⟨line, equals⟩⟩ bytes ⟨.body false, ⟨line ++ bytes, equals⟩⟩ := by
  have plain : ∀ byte ∈ bytes, isPlainByte byte = true := fun byte listed =>
    (keyByte_cases (keys byte listed)).1
  cases odd with
  | false => exact reads_plain false line equals plain
  | true =>
      obtain ⟨first, rest, rfl⟩ := List.exists_cons_of_ne_nil some_
      have taken : LineScan.read ⟨.escaped false, ⟨line, equals⟩⟩ first =
          (none, ⟨.body false, ⟨line ++ [first], equals⟩⟩) := by
        have breaks := (plain_cases (plain first List.mem_cons_self)).1
        show (none, take _ first (if isLineBreak first then _ else _)) = _
        rw [breaks, if_neg Bool.false_ne_true]
        rfl
      have others := reads_plain false (line ++ [first]) equals fun byte listed =>
        plain byte (List.mem_cons_of_mem _ listed)
      rw [List.append_assoc, List.singleton_append] at others
      exact .cons taken others

/-- A key is taken into the line. -/
theorem reads_key (odd : Bool) (line : Bytes) (equals : Option Nat) (key : List Char) :
    Reads ⟨slashMode odd, ⟨line, equals⟩⟩ (encode (escapedKey key))
      ⟨slashMode (openSlash odd key), ⟨line ++ encode (escapedKey key), equals⟩⟩ := by
  induction key generalizing odd line with
  | nil =>
      show Reads _ [] ⟨_, ⟨line ++ [], _⟩⟩
      rw [List.append_nil]
      exact .nil _
  | cons character rest inductionHypothesis =>
      rw [escapedKey_cons, encode_append]
      have others := inductionHypothesis (character == '/' && !odd)
        (line ++ encode ((utf16Units character).flatMap escapedUnit))
      rw [List.append_assoc] at others
      refine Reads.append ?_ others
      by_cases slash : character = '/'
      · subst slash
        exact reads_slash odd line equals
      · rw [beq_false_of_ne slash]
        refine reads_keyBytes odd line equals ?_ fun byte => keyByte_of_character slash
        intro empty
        have written : (utf16Units character).flatMap escapedUnit = [] := encode_injective empty
        obtain ⟨unit, units, shape⟩ : ∃ unit units, utf16Units character = unit :: units := by
          unfold utf16Units
          dsimp only
          split
          · exact ⟨_, _, rfl⟩
          · exact ⟨_, _, rfl⟩
        rw [shape, List.flatMap_cons, List.append_eq_nil_iff] at written
        exact escapedUnit_ne_nil unit written.1

end LineScan

/-! ## Lines -/

/-- The line of a key and its value. -/
def entryLine (entry : String × IniValue) : IniLine where
  text := utf8 (iniEscapedKey entry.1) ++ 61 :: utf8 (encodeValue entry.2)
  equals := if endsOdd entry.1 then none else some (utf8 (iniEscapedKey entry.1)).length

theorem utf8_iniEscapedKey (key : String) : utf8 (iniEscapedKey key) = encode (escapedKey key.toList) := by
  rw [iniEscapedKey, utf8_ofList]
  rfl

/-- The first byte of an entry begins neither a comment nor a header. -/
theorem entry_begins (key : String) (rest : Bytes) :
    ∃ first others, utf8 (iniEscapedKey key) ++ 61 :: rest = first :: others ∧
      iniSpace first = false ∧ first ≠ 35 ∧ first ≠ 59 ∧ first ≠ 91 := by
  cases bytes : utf8 (iniEscapedKey key) with
  | nil => exact ⟨61, rest, rfl, rfl, by decide, by decide, by decide⟩
  | cons first others =>
      refine ⟨first, others ++ 61 :: rest, rfl, ?_⟩
      have listed : first ∈ encode (escapedKey key.toList) := by
        rw [← utf8_iniEscapedKey, bytes]
        exact List.mem_cons_self
      rcases keyByte_or_backslash listed with written | rfl
      · obtain ⟨plain, space, -, number, bracket, -⟩ := keyByte_cases written
        exact ⟨space, number, (plain_cases plain).2.2.1, bracket⟩
      · exact ⟨rfl, by decide, by decide, by decide⟩

/-- An entry is one line. -/
theorem lines_entry (entry : String × IniValue) (rest : Bytes) :
    LineScan.lines {} (utf8 (encodeEntry entry) ++ rest) =
      entryLine entry :: LineScan.lines {} rest := by
  obtain ⟨key, value⟩ := entry
  have shape : utf8 (encodeEntry (key, value)) ++ rest =
      utf8 (iniEscapedKey key) ++ 61 :: (utf8 (encodeValue value) ++ 10 :: rest) := by
    rw [encodeEntry, utf8_append, utf8_append, utf8_append, List.append_assoc, List.append_assoc,
      List.append_assoc]
    rfl
  obtain ⟨first, others, begins, space, number, semicolon, -⟩ :=
    entry_begins key (utf8 (encodeValue value) ++ 10 :: rest)
  have body : LineScan.lines {} (utf8 (encodeEntry (key, value)) ++ rest) =
      LineScan.lines ⟨.body false, {}⟩ (utf8 (encodeEntry (key, value)) ++ rest) := by
    rw [shape, begins]
    exact LineScan.lines_lead others space number semicolon
  have written := LineScan.reads_key false [] none key.toList
  rw [← utf8_iniEscapedKey, List.nil_append] at written
  have divided : LineScan.Reads
      ⟨LineScan.slashMode (endsOdd key), ⟨utf8 (iniEscapedKey key), none⟩⟩ [61]
      ⟨.body false, ⟨utf8 (iniEscapedKey key) ++ [61], (entryLine (key, value)).equals⟩⟩ := by
    unfold entryLine
    cases endsOdd key with
    | false => exact LineScan.reads_equals _
    | true => exact .single rfl
  have valued := LineScan.reads_encodeValue (utf8 (iniEscapedKey key) ++ [61])
    (entryLine (key, value)).equals value
  have whole := (written.append divided).append valued (10 :: rest)
  rw [List.append_assoc, List.append_assoc, List.singleton_append] at whole
  rw [body, shape]
  refine whole.trans ?_
  rw [LineScan.lines_break _ _ rfl]
  show (⟨utf8 (iniEscapedKey key) ++ [61] ++ _, _⟩ : IniLine) :: _ = _
  rw [List.append_assoc]
  rfl

/-- The line of a section header. -/
def headerLine (group : String) : IniLine := { text := utf8 (sectionHeader group) }

/-- A header between its brackets. -/
theorem sectionHeader_shape {group : String} (slash : '/' ∉ group.toList) :
    ∃ inner, utf8 (sectionHeader group) = 91 :: inner ++ [93] ∧
      ∀ byte ∈ inner, isKeyByte byte = true := by
  unfold sectionHeader
  dsimp only
  split
  · exact ⟨utf8 "General", rfl, by decide +kernel⟩
  split
  · exact ⟨utf8 "%General", rfl, by decide +kernel⟩
  · refine ⟨utf8 (iniEscapedKey group), ?_, fun byte listed => ?_⟩
    · rw [utf8_append, utf8_append]
      rfl
    · rw [utf8_iniEscapedKey] at listed
      exact keyByte_of_key slash listed

/-- A header is one line. -/
theorem lines_header {group : String} (slash : '/' ∉ group.toList) (rest : Bytes) :
    LineScan.lines {} (utf8 (sectionHeader group) ++ 10 :: rest) =
      headerLine group :: LineScan.lines {} rest := by
  obtain ⟨inner, shape, keys⟩ := sectionHeader_shape slash
  have plain : ∀ byte ∈ (91 :: inner ++ [93] : Bytes), isPlainByte byte = true := by
    intro byte listed
    rw [List.mem_append, List.mem_cons, List.mem_singleton] at listed
    rcases listed with (rfl | listed) | rfl
    · decide
    · exact (keyByte_cases (keys byte listed)).1
    · decide
  have whole := LineScan.reads_plain false [] none plain (10 :: rest)
  rw [LineScan.lines_break _ _ rfl] at whole
  rw [headerLine, shape]
  refine Eq.trans ?_ whole
  exact LineScan.lines_lead _ rfl (by decide) (by decide)

/-- The entries of a section as they are written. -/
def sorted (entries : List (String × IniValue)) : List (String × IniValue) :=
  entries.mergeSort fun left right => (compare left.1 right.1).isLE

/-- The lines of a section. -/
def sectionLines (group : String) (entries : List (String × IniValue)) : List IniLine :=
  headerLine group :: (sorted entries).map entryLine

/-- A section is its header and its entries. -/
theorem lines_section {group : String} (slash : '/' ∉ group.toList)
    (entries : List (String × IniValue)) (rest : Bytes) :
    LineScan.lines {} (utf8 (encodeSection group entries) ++ rest) =
      sectionLines group entries ++ LineScan.lines {} rest := by
  have each : ∀ entries : List (String × IniValue),
      LineScan.lines {} (utf8 (String.join (entries.map encodeEntry)) ++ rest) =
        entries.map entryLine ++ LineScan.lines {} rest := by
    intro entries
    induction entries with
    | nil => rfl
    | cons entry others inductionHypothesis =>
        rw [List.map_cons, List.map_cons, String.join_cons, utf8_append, List.append_assoc,
          lines_entry, inductionHypothesis, List.cons_append]
  have shape : utf8 (encodeSection group entries) ++ rest = utf8 (sectionHeader group) ++
      10 :: (utf8 (String.join ((sorted entries).map encodeEntry)) ++ rest) := by
    rw [encodeSection, utf8_append, utf8_append, List.append_assoc, List.append_assoc]
    rfl
  rw [shape, lines_header slash, each, sectionLines, List.cons_append]

/-! ## Files -/

/-- The characters around the first separator. -/
theorem splitTextOnce_cases (separator : Char) (text : String) :
    (separator ∉ text.toList ∧ splitTextOnce separator text = none) ∨
      ∃ front back, splitTextOnce separator text = some (front, back) ∧
        separator ∉ front.toList ∧ text.toList = front.toList ++ separator :: back.toList := by
  unfold splitTextOnce
  by_cases listed : separator ∈ text.toList
  · right
    rw [if_pos listed]
    refine ⟨_, _, rfl, ?_, ?_⟩
    · intro there
      rw [String.toList_ofList] at there
      have other := List.mem_takeWhile_imp there
      simp at other
    · have behind : text.toList.dropWhile (· ≠ separator) ≠ [] := by
        intro empty
        have all := List.dropWhile_eq_nil_iff.mp empty separator listed
        simp at all
      have head : (text.toList.dropWhile (· ≠ separator)).head behind = separator := by
        have stops := List.head_dropWhile_not (fun character => decide (character ≠ separator)) behind
        simpa using stops
      have whole := List.cons_head_tail behind
      rw [head] at whole
      rw [String.toList_ofList, String.toList_ofList, whole]
      exact List.takeWhile_append_dropWhile.symm
  · left
    rw [if_neg listed]
    exact ⟨listed, rfl⟩

theorem splitSection_slash (path : String) : '/' ∉ (splitSection path).1.toList := by
  rw [splitSection]
  rcases splitTextOnce_cases '/' path with ⟨-, none_⟩ | ⟨group, key, some_, absent, -⟩
  · rw [none_]
    exact List.not_mem_nil
  · rw [some_]
    exact absent

/-- The entries of a section are those of the paths in it. -/
theorem mem_sections (values : StringMap IniValue) (group key : String) (value : IniValue) :
    (key, value) ∈ ((sections values)[group]?).getD [] ↔
      ∃ path, values[path]? = some value ∧ splitSection path = (group, key) := by
  have folded : ∀ (entries : List (String × IniValue))
      (held : StringMap (List (String × IniValue))),
      (key, value) ∈ ((entries.foldl (fun sections entry =>
        sections.insert (splitSection entry.1).1
          ((sections[(splitSection entry.1).1]?).getD [] ++
            [((splitSection entry.1).2, entry.2)])) held)[group]?).getD [] ↔
        (key, value) ∈ (held[group]?).getD [] ∨
          ∃ path, (path, value) ∈ entries ∧ splitSection path = (group, key) := by
    intro entries
    induction entries with
    | nil => simp
    | cons entry rest inductionHypothesis =>
        intro held
        have inserted : (key, value) ∈ ((held.insert (splitSection entry.1).1
            ((held[(splitSection entry.1).1]?).getD [] ++
              [((splitSection entry.1).2, entry.2)]))[group]?).getD [] ↔
            (key, value) ∈ (held[group]?).getD [] ∨
              entry.2 = value ∧ splitSection entry.1 = (group, key) := by
          by_cases same : group = (splitSection entry.1).1
          · subst same
            rw [found_insert, Option.getD_some, List.mem_append, List.mem_singleton, Prod.mk.injEq,
              Prod.ext_iff]
            exact or_congr_right ⟨fun ⟨key, value⟩ => ⟨value.symm, rfl, key.symm⟩,
              fun ⟨value, _, key⟩ => ⟨key.symm, value.symm⟩⟩
          · rw [insert_other _ _ same]
            refine (or_iff_left ?_).symm
            rintro ⟨-, split⟩
            exact same (congrArg Prod.fst split).symm
        rw [List.foldl_cons, inductionHypothesis, inserted, or_assoc]
        refine or_congr_right ⟨?_, ?_⟩
        · rintro (⟨rfl, split⟩ | ⟨path, listed, split⟩)
          · exact ⟨entry.1, List.mem_cons_self, split⟩
          · exact ⟨path, List.mem_cons_of_mem _ listed, split⟩
        · rintro ⟨path, listed, split⟩
          rcases List.mem_cons.mp listed with rfl | later
          · exact .inl ⟨rfl, split⟩
          · exact .inr ⟨path, later, split⟩
  have listed (path : String) : (path, value) ∈ values.toList ↔ values[path]? = some value :=
    Std.TreeMap.mem_toList_iff_getElem?_eq_some
  have whole := folded values.toList ∅
  simp only [listed] at whole
  rw [sections]
  refine whole.trans ?_
  simp

/-- A section holds entries, so it is the section of some path. -/
theorem section_of_sections {values : StringMap IniValue} {group : String}
    {entries : List (String × IniValue)} (found : (sections values)[group]? = some entries) :
    ∃ path, values.contains path = true ∧ (splitSection path).1 = group := by
  have folded : ∀ (listed : List (String × IniValue))
      (held : StringMap (List (String × IniValue))),
      (listed.foldl (fun sections entry =>
        sections.insert (splitSection entry.1).1
          ((sections[(splitSection entry.1).1]?).getD [] ++
            [((splitSection entry.1).2, entry.2)])) held)[group]? = some entries →
        held[group]? ≠ none ∨ ∃ entry ∈ listed, (splitSection entry.1).1 = group := by
    intro listed
    induction listed with
    | nil =>
        intro held found
        exact .inl (by rw [show held[group]? = some entries from found]; nofun)
    | cons entry rest inductionHypothesis =>
        intro held found
        rcases inductionHypothesis _ found with before | ⟨other, later, same⟩
        · by_cases same : group = (splitSection entry.1).1
          · exact .inr ⟨entry, List.mem_cons_self, same.symm⟩
          · rw [insert_other _ _ same] at before
            exact .inl before
        · exact .inr ⟨other, List.mem_cons_of_mem _ later, same⟩
  rcases folded values.toList ∅ found with before | ⟨entry, listed, same⟩
  · exact absurd (by simp) before
  · refine ⟨entry.1, ?_, same⟩
    have value := Std.TreeMap.mem_toList_iff_getElem?_eq_some.mp listed
    rw [Std.TreeMap.contains_eq_isSome_getElem?, value]
    rfl

theorem section_slash {values : StringMap IniValue} {group : String}
    {entries : List (String × IniValue)} (listed : (group, entries) ∈ (sections values).toList) :
    '/' ∉ group.toList := by
  obtain ⟨path, -, rfl⟩ := section_of_sections
    (Std.TreeMap.mem_toList_iff_getElem?_eq_some.mp listed)
  exact splitSection_slash path

/-- The lines of a written file. -/
def writtenLines (settings : Settings) : List IniLine :=
  (sections settings.values).toList.flatMap fun entry => sectionLines entry.1 entry.2

/-- A file begins with a header, so no byte order mark is taken from it. -/
theorem stripBom_encode (settings : Settings) : stripBom settings.encode = settings.encode := by
  have begins : settings.encode = [] ∨ ∃ rest, settings.encode = 91 :: rest := by
    unfold Settings.encode
    cases shape : (sections settings.values).toList with
    | nil => exact .inl rfl
    | cons entry rest =>
        right
        have listed : (entry.1, entry.2) ∈ (sections settings.values).toList := by
          rw [shape]
          exact List.mem_cons_self
        obtain ⟨inner, header, -⟩ := sectionHeader_shape (section_slash listed)
        have whole : ∃ rest, utf8 (encodeSection entry.1 entry.2) = 91 :: rest := by
          rw [encodeSection, utf8_append, utf8_append, header]
          exact ⟨_, rfl⟩
        obtain ⟨others, section_⟩ := whole
        cases rest with
        | nil => exact ⟨others, by rw [List.map_singleton, joinTexts_single, section_]⟩
        | cons second rest =>
            rw [List.map_cons, List.map_cons, joinTexts_cons, section_]
            exact ⟨_, rfl⟩
  rcases begins with empty | ⟨rest, shape⟩
  · rw [empty]
    rfl
  · rw [shape]
    rfl

/-- A written file is read as the lines of its sections. -/
theorem iniLines_encode (settings : Settings) :
    iniLines (stripBom settings.encode) = writtenLines settings := by
  have each : ∀ entries : List (String × List (String × IniValue)),
      (∀ entry ∈ entries, '/' ∉ entry.1.toList) →
      LineScan.lines {} (utf8 (joinTexts "\n"
        (entries.map fun entry => encodeSection entry.1 entry.2))) =
        entries.flatMap fun entry => sectionLines entry.1 entry.2 := by
    intro entries slashes
    induction entries with
    | nil => rfl
    | cons entry rest inductionHypothesis =>
        have slash := slashes entry List.mem_cons_self
        cases rest with
        | nil =>
            have single := lines_section slash entry.2 []
            rw [List.append_nil] at single
            rw [List.map_singleton, joinTexts_single, single]
            simp [LineScan.lines]
        | cons second others =>
            have remaining := inductionHypothesis fun other listed =>
              slashes other (List.mem_cons_of_mem _ listed)
            rw [List.map_cons] at remaining
            rw [List.map_cons, List.map_cons, joinTexts_cons, lines_section slash]
            show _ ++ LineScan.lines {} (10 :: utf8 _) = _
            rw [LineScan.lines_blank, remaining]
            rfl
  rw [stripBom_encode]
  exact each _ fun entry listed => section_slash listed

end Omairc.Ini
