import Mathlib.Algebra.Ring.Int.Defs
import Mathlib.Algebra.Ring.Nat
import Mathlib.Data.List.Basic
import Mathlib.Data.List.TakeWhile

/-!
# Bytes, ASCII classes and UTF-8

Wire data is a list of bytes and display text is a `String`. This module fixes
the byte classes and case maps of ASCII and the two directions between bytes and
text; `fromUtf8?_eq_some_iff` makes them inverse wherever decoding succeeds.
-/

namespace Omairc.Text

/-- Raw wire octets. -/
abbrev Bytes := List UInt8

/-- ASCII decimal digits. -/
def isAsciiDigit (byte : UInt8) : Bool := 48 ≤ byte && byte ≤ 57

/-- ASCII capital letters. -/
def isAsciiUppercase (byte : UInt8) : Bool := 65 ≤ byte && byte ≤ 90

/-- ASCII small letters. -/
def isAsciiLowercase (byte : UInt8) : Bool := 97 ≤ byte && byte ≤ 122

/-- ASCII letters of either case. -/
def isAsciiAlphabetic (byte : UInt8) : Bool := isAsciiUppercase byte || isAsciiLowercase byte

/-- ASCII letters and digits. -/
def isAsciiAlphanumeric (byte : UInt8) : Bool := isAsciiAlphabetic byte || isAsciiDigit byte

/-- ASCII upper casing of one byte; other bytes are unchanged. -/
def toAsciiUppercase (byte : UInt8) : UInt8 := if isAsciiLowercase byte then byte - 32 else byte

/-- ASCII lower casing of one byte; other bytes are unchanged. -/
def toAsciiLowercase (byte : UInt8) : UInt8 := if isAsciiUppercase byte then byte + 32 else byte

/-- A property of bytes is checked on the 256 values. -/
theorem byte_forall {property : UInt8 → Prop}
    (holds : ∀ value : Fin 256, property (UInt8.ofFin value)) (byte : UInt8) : property byte := by
  simpa using holds byte.toFin

/-- Upper casing is idempotent. -/
@[simp] theorem toAsciiUppercase_idem (byte : UInt8) :
    toAsciiUppercase (toAsciiUppercase byte) = toAsciiUppercase byte := by
  revert byte
  exact byte_forall (by decide +kernel)

/-- Upper casing keeps letters letters. -/
@[simp] theorem isAsciiAlphabetic_toAsciiUppercase (byte : UInt8) :
    isAsciiAlphabetic (toAsciiUppercase byte) = isAsciiAlphabetic byte := by
  revert byte
  exact byte_forall (by decide +kernel)

/-- Upper casing keeps digits digits. -/
@[simp] theorem isAsciiDigit_toAsciiUppercase (byte : UInt8) :
    isAsciiDigit (toAsciiUppercase byte) = isAsciiDigit byte := by
  revert byte
  exact byte_forall (by decide +kernel)

/-- The UTF-8 bytes of a text. -/
def utf8 (text : String) : Bytes := text.toByteArray.data.toList

/-- The text encoded by a byte sequence, when the sequence is valid UTF-8. -/
def fromUtf8? (bytes : Bytes) : Option String := String.fromUTF8? ⟨bytes.toArray⟩

/-- A text is determined by its bytes. -/
theorem utf8_injective {left right : String} (same : utf8 left = utf8 right) : left = right := by
  rw [utf8, utf8, Array.toList_inj] at same
  rw [← String.toByteArray_inj]
  exact ByteArray.ext same

/-- Decoding inverts encoding, and succeeds on nothing else. -/
theorem fromUtf8?_eq_some_iff {bytes : Bytes} {text : String} :
    fromUtf8? bytes = some text ↔ utf8 text = bytes := by
  unfold fromUtf8? String.fromUTF8?
  constructor
  · intro decoded
    split at decoded
    · cases decoded
      rfl
    · cases decoded
  · rintro rfl
    have valid : (⟨(utf8 text).toArray⟩ : ByteArray) = text.toByteArray := by simp [utf8]
    rw [dif_pos (valid ▸ text.isValidUTF8)]
    congr 1

/-- Encoding a text and decoding it returns the text. -/
@[simp] theorem fromUtf8?_utf8 (text : String) : fromUtf8? (utf8 text) = some text :=
  fromUtf8?_eq_some_iff.mpr rfl

/-- Encoding distributes over concatenation. -/
@[simp] theorem utf8_append (left right : String) :
    utf8 (left ++ right) = utf8 left ++ utf8 right := by
  simp [utf8, String.toByteArray_append]

/-- The bytes of a text given by its characters. -/
theorem utf8_ofList (characters : List Char) :
    utf8 (String.ofList characters) = characters.flatMap String.utf8EncodeChar := by
  rw [utf8, String.toByteArray_ofList]
  simp [List.utf8Encode]

/-- An ASCII character is encoded in its one byte. -/
theorem utf8EncodeChar_ascii (byte : UInt8) :
    byte < 128 → String.utf8EncodeChar (Char.ofNat byte.toNat) = [byte] := by
  revert byte
  exact byte_forall (by decide +kernel)

/-- ASCII bytes are always the bytes of a text. -/
theorem exists_utf8_of_ascii {bytes : Bytes} (ascii : ∀ byte ∈ bytes, byte < 128) :
    ∃ text, utf8 text = bytes := by
  refine ⟨String.ofList (bytes.map fun byte => Char.ofNat byte.toNat), ?_⟩
  rw [utf8_ofList]
  induction bytes with
  | nil => rfl
  | cons byte rest ih =>
      rw [List.map_cons, List.flatMap_cons,
        utf8EncodeChar_ascii byte (ascii byte List.mem_cons_self),
        ih fun other present => ascii other (List.mem_cons_of_mem _ present)]
      rfl

@[simp] theorem utf8_empty : utf8 "" = [] := rfl

end Omairc.Text
