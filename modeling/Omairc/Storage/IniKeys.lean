import Omairc.Irc.Presence
import Omairc.Text.Lossy

/-!
# Keys of a settings file

A key is written in ASCII letters, digits and three marks. A slash is written as a backslash,
and every other UTF-16 unit as two or four hexadecimal digits. Reading undoes it.
-/

namespace Omairc.Ini

open Omairc.Text Omairc.Irc

/-- The value of a hexadecimal digit, given by its code. -/
def hexValue (code : Nat) : Option Nat :=
  if 48 ≤ code ∧ code ≤ 57 then some (code - 48)
  else if 97 ≤ code ∧ code ≤ 102 then some (code - 97 + 10)
  else if 65 ≤ code ∧ code ≤ 70 then some (code - 65 + 10)
  else none

theorem hexValue_lt {code value : Nat} (found : hexValue code = some value) : code < 128 := by
  by_contra beyond
  have none : hexValue code = none := by
    rw [hexValue, if_neg (by omega), if_neg (by omega), if_neg (by omega)]
  rw [none] at found
  cases found

/-- The value of an octal digit, given by its code. -/
def octValue (code : Nat) : Option Nat :=
  if 48 ≤ code ∧ code ≤ 55 then some (code - 48) else none

/-- The capital hexadecimal digit of a nibble. -/
def hexUpper (nibble : Nat) : Char :=
  Char.ofNat (if nibble % 16 < 10 then 48 + nibble % 16 else 55 + nibble % 16)

/-- The unit that an escape stands for and the number of units it takes, from what stands behind
the percent sign. -/
def readEscape (rest : List Nat) : Option (Nat × Nat) :=
  let (first, digits) := if rest.head? = some 0x55 then (1, 4) else (0, 2)
  if rest.length < first + digits then none
  else
    (((rest.drop first).take digits).mapM hexValue).map fun values =>
      (values.foldl (fun value digit => value * 16 + digit) 0, first + digits)

/-- The units of a key, past those of an escape that was read. -/
def unescapedUnits : Nat → List Nat → List Nat
  | _, [] => []
  | skipped + 1, _ :: rest => unescapedUnits skipped rest
  | 0, unit :: rest =>
      if unit = 0x5C then 0x2F :: unescapedUnits 0 rest
      else if unit ≠ 0x25 ∨ rest = [] then unit :: unescapedUnits 0 rest
      else
        match readEscape rest with
        | none => 0x25 :: unescapedUnits 0 rest
        | some (value, length) => value % 0x10000 :: unescapedUnits length rest

/-- The UTF-16 units of a text. -/
def encodeUtf16 (text : List Char) : List Nat := text.flatMap utf16Units

/-- A key as it is read. A backslash is a slash, and `%XX` and `%UXXXX` are units. -/
def iniUnescapedKey (key : Bytes) : String :=
  let units := encodeUtf16 (fromUtf8Lossy key).toList
  String.ofList (fromUtf16Lossy (unescapedUnits 0 units))

/-- Units that are written as they are. -/
def isLiteralUnit (unit : Nat) : Bool :=
  (0x30 ≤ unit && unit ≤ 0x39) || (0x41 ≤ unit && unit ≤ 0x5A) || (0x61 ≤ unit && unit ≤ 0x7A) ||
    unit == 0x2D || unit == 0x2E || unit == 0x5F

/-- A unit as it is written. -/
def escapedUnit (unit : Nat) : List Char :=
  if unit = 0x2F then ['\\']
  else if isLiteralUnit unit then [Char.ofNat unit]
  else if unit ≤ 0xFF then ['%', hexUpper (unit / 16), hexUpper unit]
  else
    ['%', 'U', hexUpper (unit / 0x1000), hexUpper (unit / 0x100), hexUpper (unit / 16),
      hexUpper unit]

/-- The characters of a key as it is written. -/
def escapedKey (key : List Char) : List Char := (encodeUtf16 key).flatMap escapedUnit

/-- A key as it is written. -/
def iniEscapedKey (key : String) : String := String.ofList (escapedKey key.toList)

/-! ## UTF-16 -/

/-- The code of a character is no surrogate. -/
theorem point_cases (character : Char) :
    character.toNat < 0xD800 ∨ 0xDFFF < character.toNat ∧ character.toNat < 0x110000 :=
  character.valid

/-- The units of a character are read back. -/
theorem fromUtf16Lossy_units (character : Char) (rest : List Nat) :
    fromUtf16Lossy (utf16Units character ++ rest) = character :: fromUtf16Lossy rest := by
  have point := point_cases character
  unfold utf16Units
  dsimp only
  split
  · have plain : ¬(0xD800 ≤ character.toNat ∧ character.toNat < 0xE000) := by omega
    cases rest with
    | nil =>
        show [if 0xD800 ≤ character.toNat ∧ character.toNat < 0xE000 then Char.ofNat 0xFFFD
          else Char.ofNat character.toNat] = [character]
        rw [if_neg plain, Char.ofNat_toNat]
    | cons next rest =>
        have single : ¬(0xD800 ≤ character.toNat ∧ character.toNat < 0xDC00 ∧ 0xDC00 ≤ next ∧
            next < 0xE000) := by
          omega
        rw [List.singleton_append, fromUtf16Lossy, if_neg single, if_neg plain, Char.ofNat_toNat]
  · have pair : 0xD800 ≤ 0xD800 + (character.toNat - 0x10000) / 0x400 ∧
        0xD800 + (character.toNat - 0x10000) / 0x400 < 0xDC00 ∧
        0xDC00 ≤ 0xDC00 + (character.toNat - 0x10000) % 0x400 ∧
        0xDC00 + (character.toNat - 0x10000) % 0x400 < 0xE000 := by
      omega
    have whole : 0x10000 + (0xD800 + (character.toNat - 0x10000) / 0x400 - 0xD800) * 0x400 +
        (0xDC00 + (character.toNat - 0x10000) % 0x400 - 0xDC00) = character.toNat := by
      omega
    rw [List.cons_append, List.singleton_append, fromUtf16Lossy, if_pos pair, whole,
      Char.ofNat_toNat]

/-- The units of a text are read back. -/
theorem fromUtf16Lossy_encodeUtf16 (text : List Char) :
    fromUtf16Lossy (encodeUtf16 text) = text := by
  induction text with
  | nil => rfl
  | cons character rest inductionHypothesis =>
      rw [encodeUtf16, List.flatMap_cons, fromUtf16Lossy_units]
      exact congrArg _ inductionHypothesis

/-- A unit has 16 bits. -/
theorem utf16Units_lt {character : Char} {unit : Nat} (listed : unit ∈ utf16Units character) :
    unit < 0x10000 := by
  have point := point_cases character
  unfold utf16Units at listed
  dsimp only at listed
  split at listed
  · rw [List.mem_singleton] at listed
    omega
  · rw [List.mem_cons, List.mem_singleton] at listed
    omega

/-- A character of one unit is that unit. -/
theorem encodeUtf16_of_lt {text : List Char} (narrow : ∀ character ∈ text, character.toNat < 128) :
    encodeUtf16 text = text.map Char.toNat := by
  induction text with
  | nil => rfl
  | cons character rest inductionHypothesis =>
      have small : character.toNat < 0x10000 :=
        (narrow character List.mem_cons_self).trans (by decide)
      rw [encodeUtf16, List.flatMap_cons, List.map_cons,
        ← inductionHypothesis fun other there => narrow other (List.mem_cons_of_mem _ there)]
      unfold utf16Units
      rw [if_pos small]
      rfl

/-! ## Escapes -/

theorem hexUpper_mod (nibble : Nat) : hexUpper (nibble % 16) = hexUpper nibble := by
  rw [hexUpper, hexUpper, Nat.mod_mod]

theorem hexUpper_cases (nibble : Nat) :
    hexValue (hexUpper nibble).toNat = some (nibble % 16) ∧ (hexUpper nibble).toNat < 128 ∧
      hexUpper nibble ≠ 'U' := by
  have digits : ∀ digit < 16, hexValue (hexUpper digit).toNat = some digit ∧
      (hexUpper digit).toNat < 128 ∧ hexUpper digit ≠ 'U' := by
    decide
  rw [← hexUpper_mod]
  exact digits (nibble % 16) (Nat.mod_lt _ (by decide))

/-- Units behind an escape that was read. -/
theorem unescapedUnits_drop (skipped : Nat) (units : List Nat) :
    unescapedUnits skipped units = unescapedUnits 0 (units.drop skipped) := by
  induction units generalizing skipped with
  | nil => simp [unescapedUnits]
  | cons unit rest inductionHypothesis =>
      cases skipped with
      | zero => rfl
      | succ skipped =>
          rw [unescapedUnits, List.drop_succ_cons]
          exact inductionHypothesis skipped

theorem literalUnit_cases {unit : Nat} (literal : isLiteralUnit unit = true) :
    (Char.ofNat unit).toNat = unit ∧ unit < 128 ∧ unit ≠ 0x5C ∧ unit ≠ 0x25 := by
  have below : ∀ unit < 128, isLiteralUnit unit = true →
      (Char.ofNat unit).toNat = unit ∧ unit ≠ 0x5C ∧ unit ≠ 0x25 := by
    decide
  have bound : unit < 128 := by
    simp only [isLiteralUnit, Bool.or_eq_true, Bool.and_eq_true, decide_eq_true_eq,
      beq_iff_eq] at literal
    omega
  obtain ⟨code, slash, percent⟩ := below unit bound literal
  exact ⟨code, bound, slash, percent⟩

/-- Two digits behind the percent sign. -/
theorem readEscape_two (first second : Nat) (rest : List Nat) :
    readEscape ((hexUpper first).toNat :: (hexUpper second).toNat :: rest) =
      some (first % 16 * 16 + second % 16, 2) := by
  obtain ⟨high, -, letter⟩ := hexUpper_cases first
  obtain ⟨low, -, -⟩ := hexUpper_cases second
  have other : (hexUpper first).toNat ≠ 0x55 := fun same => letter (Char.ext (UInt32.toNat_inj.mp same))
  have lead : (some (hexUpper first).toNat : Option Nat) ≠ some 0x55 := fun same =>
    other (Option.some_inj.mp same)
  unfold readEscape
  rw [List.head?_cons, if_neg lead]
  simp [high, low]

/-- Four digits behind the percent sign and the letter. -/
theorem readEscape_four (first second third fourth : Nat) (rest : List Nat) :
    readEscape (0x55 :: (hexUpper first).toNat :: (hexUpper second).toNat ::
        (hexUpper third).toNat :: (hexUpper fourth).toNat :: rest) =
      some (((first % 16 * 16 + second % 16) * 16 + third % 16) * 16 + fourth % 16, 5) := by
  obtain ⟨one, -, -⟩ := hexUpper_cases first
  obtain ⟨two, -, -⟩ := hexUpper_cases second
  obtain ⟨three, -, -⟩ := hexUpper_cases third
  obtain ⟨four, -, -⟩ := hexUpper_cases fourth
  unfold readEscape
  rw [List.head?_cons, if_pos rfl]
  simp [one, two, three, four]

/-- The codes of an escaped unit are read back. -/
theorem unescapedUnits_escaped {unit : Nat} (bound : unit < 0x10000) (rest : List Nat) :
    unescapedUnits 0 ((escapedUnit unit).map Char.toNat ++ rest) =
      unit :: unescapedUnits 0 rest := by
  have escape (units : List Nat) (value length : Nat) (found : units ≠ [])
      (read : readEscape units = some (value, length)) :
      unescapedUnits 0 (0x25 :: units) =
        value % 0x10000 :: unescapedUnits 0 (units.drop length) := by
    have taken : ¬((0x25 : Nat) ≠ 0x25 ∨ units = []) := by
      rintro (differs | empty)
      · exact differs rfl
      · exact found empty
    rw [unescapedUnits, if_neg (by decide), if_neg taken, read, ← unescapedUnits_drop]
  unfold escapedUnit
  split
  · rename_i slash
    subst slash
    rfl
  split
  · rename_i literal
    obtain ⟨code, -, backslash, percent⟩ := literalUnit_cases literal
    rw [List.map_singleton, List.singleton_append, code, unescapedUnits, if_neg backslash,
      if_pos (.inl percent)]
  split
  · have whole : (unit / 16 % 16 * 16 + unit % 16) % 0x10000 = unit := by omega
    have read := escape _ _ _ (by simp) (readEscape_two (unit / 16) unit rest)
    rw [whole] at read
    exact read
  · have whole : (((unit / 0x1000 % 16 * 16 + unit / 0x100 % 16) * 16 + unit / 16 % 16) * 16 +
        unit % 16) % 0x10000 = unit := by
      omega
    have read := escape _ _ _ (by simp)
      (readEscape_four (unit / 0x1000) (unit / 0x100) (unit / 16) unit rest)
    rw [whole] at read
    exact read

/-- An escaped unit is ASCII. -/
theorem escapedUnit_ascii {unit : Nat} {character : Char} (listed : character ∈ escapedUnit unit) :
    character.toNat < 128 := by
  have digit (nibble : Nat) : (hexUpper nibble).toNat < 128 := (hexUpper_cases nibble).2.1
  unfold escapedUnit at listed
  split at listed
  · rw [List.mem_singleton] at listed
    exact listed ▸ by decide
  split at listed
  · rename_i literal
    obtain ⟨code, bound, -⟩ := literalUnit_cases literal
    rw [List.mem_singleton] at listed
    rw [listed, code]
    exact bound
  split at listed
  · simp only [List.mem_cons, List.not_mem_nil, or_false] at listed
    rcases listed with rfl | rfl | rfl
    · decide
    · exact digit _
    · exact digit _
  · simp only [List.mem_cons, List.not_mem_nil, or_false] at listed
    rcases listed with rfl | rfl | rfl | rfl | rfl | rfl
    · decide
    · decide
    all_goals exact digit _

theorem escapedUnit_ne_nil (unit : Nat) : escapedUnit unit ≠ [] := by
  unfold escapedUnit
  split
  · simp
  split
  · simp
  split <;> simp

theorem escapedKey_ascii {key : List Char} {character : Char} (listed : character ∈ escapedKey key) :
    character.toNat < 128 := by
  obtain ⟨unit, -, there⟩ := List.mem_flatMap.mp listed
  exact escapedUnit_ascii there

/-- A key is read as it was written. -/
@[simp] theorem iniUnescapedKey_escaped (key : String) :
    iniUnescapedKey (utf8 (iniEscapedKey key)) = key := by
  have units : ∀ units : List Nat, (∀ unit ∈ units, unit < 0x10000) →
      unescapedUnits 0 ((units.flatMap escapedUnit).map Char.toNat) = units := by
    intro units bounded
    induction units with
    | nil => rfl
    | cons unit rest inductionHypothesis =>
        rw [List.flatMap_cons, List.map_append,
          unescapedUnits_escaped (bounded unit List.mem_cons_self),
          inductionHypothesis fun other there => bounded other (List.mem_cons_of_mem _ there)]
  have bounded : ∀ unit ∈ encodeUtf16 key.toList, unit < 0x10000 := by
    intro unit listed
    obtain ⟨character, -, there⟩ := List.mem_flatMap.mp listed
    exact utf16Units_lt there
  have read : unescapedUnits 0 (encodeUtf16 (escapedKey key.toList)) = encodeUtf16 key.toList := by
    rw [encodeUtf16_of_lt fun character listed => escapedKey_ascii listed]
    exact units _ bounded
  rw [iniUnescapedKey, fromUtf8Lossy_utf8, iniEscapedKey, String.toList_ofList]
  show String.ofList (fromUtf16Lossy (unescapedUnits 0 (encodeUtf16 (escapedKey key.toList)))) = key
  rw [read, fromUtf16Lossy_encodeUtf16, String.ofList_toList]

example : iniEscapedKey "a b/ü" = "a%20b\\%FC" ∧
    iniUnescapedKey (utf8 "a%20b\\%FC%") = "a b/ü%" := by
  decide

end Omairc.Ini
