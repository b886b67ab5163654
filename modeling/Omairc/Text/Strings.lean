import Mathlib.Data.List.DropRight
import Omairc.Text.Bytes

/-!
# Operations on texts

The text operations of the modelled program, on the characters of a `String`:
trimming, splitting, joining, ASCII case folding, and the decimal readers with the
bounds of the program's integer types.
-/

namespace Omairc.Text

/-- Maps keyed by texts, in the order of the texts. -/
abbrev StringMap (α : Type) := Std.TreeMap String α

/-- Sets of texts, in the order of the texts. -/
abbrev StringSet := Std.TreeSet String

/-- Characters with the Unicode White_Space property. -/
def isWhitespace (character : Char) : Bool :=
  let point := character.toNat
  (9 ≤ point && point ≤ 13) || point == 32 || point == 0x85 || point == 0xA0 ||
    point == 0x1680 || (0x2000 ≤ point && point ≤ 0x200A) || point == 0x2028 ||
    point == 0x2029 || point == 0x202F || point == 0x205F || point == 0x3000

/-- Characters of the Unicode general category Cc. -/
def isControl (character : Char) : Bool :=
  let point := character.toNat
  point < 32 || (127 ≤ point && point ≤ 159)

/-- Length of a text in bytes. -/
def byteLength (text : String) : Nat := (utf8 text).length

/-- A text without the white space at its two ends. -/
def trim (text : String) : String :=
  String.ofList ((text.toList.dropWhile isWhitespace).rdropWhile isWhitespace)

/-- The pieces of a text around every occurrence of `separator`. -/
def splitText (separator : Char) (text : String) : List String :=
  (text.toList.splitOn separator).map String.ofList

/-- The parts of a text around the first occurrence of `separator`. -/
def splitTextOnce (separator : Char) (text : String) : Option (String × String) :=
  if separator ∈ text.toList then
    some (String.ofList (text.toList.takeWhile (· ≠ separator)),
      String.ofList (text.toList.dropWhile (· ≠ separator)).tail)
  else none

/-- What follows `lead` at the start of a text. -/
def stripLead (lead text : String) : Option String :=
  if lead.toList.isPrefixOf text.toList then
    some (String.ofList (text.toList.drop lead.toList.length))
  else none

/-- Whether a text starts with a character. -/
def startsWithChar (text : String) (lead : Char) : Bool := text.toList.head? == some lead

/-- Texts joined with a separator between them. -/
def joinTexts (separator : String) (texts : List String) : String :=
  String.ofList (separator.toList.intercalate (texts.map String.toList))

theorem joinTexts_single (separator text : String) : joinTexts separator [text] = text := by
  refine String.toList_injective ?_
  simp [joinTexts, List.intercalate]

/-- Texts with a separator between them. -/
theorem joinTexts_cons_cons (separator first second : String) (rest : List String) :
    joinTexts separator (first :: second :: rest) =
      first ++ (separator ++ joinTexts separator (second :: rest)) := by
  refine String.toList_injective ?_
  simp [joinTexts, List.intercalate]

theorem joinTexts_cons (separator first second : String) (rest : List String) :
    utf8 (joinTexts separator (first :: second :: rest)) =
      utf8 first ++ (utf8 separator ++ utf8 (joinTexts separator (second :: rest))) := by
  rw [joinTexts_cons_cons, utf8_append, utf8_append]

/-- Texts with one text more behind them. -/
theorem joinTexts_concat (separator : String) {texts : List String} (full : texts ≠ [])
    (last : String) :
    joinTexts separator (texts ++ [last]) = joinTexts separator texts ++ (separator ++ last) := by
  induction texts with
  | nil => exact absurd rfl full
  | cons first more inductionHypothesis =>
      cases more with
      | nil =>
          rw [joinTexts_single, List.singleton_append, joinTexts_cons_cons, joinTexts_single]
      | cons second rest =>
          rw [List.cons_append, List.cons_append, joinTexts_cons_cons, ← List.cons_append,
            inductionHypothesis (List.cons_ne_nil _ _), joinTexts_cons_cons, String.append_assoc,
            String.append_assoc]

/-- ASCII lower casing of a text. -/
def asciiLowercase (text : String) : String := String.ofList (text.toList.map Char.toLower)

/-- The value of decimal digits, most significant first. -/
def digitsValue (digits : List Char) : Nat :=
  digits.foldl (fun value digit => 10 * value + (digit.toNat - 48)) 0

/-- Read a nonempty run of ASCII digits. -/
def parseDigits (digits : List Char) : Option Nat :=
  if !digits.isEmpty && digits.all Char.isDigit then some (digitsValue digits) else none

/-- Read a signed 64-bit decimal: an optional sign, digits, and no overflow. -/
def parseInt64 (text : String) : Option Int :=
  let signed :=
    match text.toList with
    | '-' :: digits => (parseDigits digits).map fun value => -(value : Int)
    | '+' :: digits => (parseDigits digits).map fun value => (value : Int)
    | digits => (parseDigits digits).map fun value => (value : Int)
  signed.filter fun value => decide (-(2 ^ 63 : Int) ≤ value ∧ value < 2 ^ 63)

/-- Read an unsigned decimal below `bound`: an optional plus sign and digits. -/
def parseUnsigned (bound : Nat) (text : String) : Option Nat :=
  let value :=
    match text.toList with
    | '+' :: digits => parseDigits digits
    | digits => parseDigits digits
  value.filter fun value => decide (value < bound)

end Omairc.Text
