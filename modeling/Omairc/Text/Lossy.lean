import Omairc.Text.Utf8

/-!
# Reading bytes that may not be text

A reader that replaces what is not UTF-8 reads encoded text back. Readers differ in how many
bytes one replacement character stands for.
-/

namespace Omairc.Text

/-- U+FFFD, in the place of bytes that encode no character. -/
def replacement : Char := Char.ofNat 0xFFFD

/-- The character at the front of the bytes. -/
def frontCharacter (bytes : Bytes) : Option Char := bytes.toByteArray.utf8DecodeChar? 0

/-- The characters of the bytes, past those that are skipped. `stands` says how many bytes, from
the first one on, the next replacement character stands for. -/
def lossyFrom (stands : Bytes → Nat) : Nat → Bytes → List Char
  | _, [] => []
  | skipped + 1, _ :: rest => lossyFrom stands skipped rest
  | 0, byte :: rest =>
      match frontCharacter (byte :: rest) with
      | some character => character :: lossyFrom stands (character.utf8Size - 1) rest
      | none => replacement :: lossyFrom stands (stands (byte :: rest) - 1) rest

/-- How many of the bytes begin a character that they do not complete, and at least one. -/
def maximalSubpart : Bytes → Nat
  | first :: second :: rest =>
      let three := (first == 0xE0 && 0xA0 ≤ second && second ≤ 0xBF) ||
        (0xE1 ≤ first && first ≤ 0xEC && isContinuation second) ||
        (first == 0xED && 0x80 ≤ second && second ≤ 0x9F) ||
        (0xEE ≤ first && first ≤ 0xEF && isContinuation second)
      let four := (first == 0xF0 && 0x90 ≤ second && second ≤ 0xBF) ||
        (0xF1 ≤ first && first ≤ 0xF3 && isContinuation second) ||
        (first == 0xF4 && 0x80 ≤ second && second ≤ 0x8F)
      if three then 2
      else if four then if rest.head?.any isContinuation then 3 else 2
      else 1
  | _ => 1

/-- The text of the bytes, with one replacement for each part that begins no character. -/
def fromUtf8Lossy (bytes : Bytes) : String := String.ofList (lossyFrom maximalSubpart 0 bytes)

variable {stands : Bytes → Nat}

theorem lossyFrom_drop (skipped : Nat) (bytes : Bytes) :
    lossyFrom stands skipped bytes = lossyFrom stands 0 (bytes.drop skipped) := by
  induction bytes generalizing skipped with
  | nil => simp [lossyFrom]
  | cons byte rest inductionHypothesis =>
      cases skipped with
      | zero => rfl
      | succ skipped =>
          rw [lossyFrom, List.drop_succ_cons]
          exact inductionHypothesis skipped

/-- Encoded characters are read back, whatever stands behind them. -/
theorem lossyFrom_encode (characters : List Char) (rest : Bytes) :
    lossyFrom stands 0 (encode characters ++ rest) = characters ++ lossyFrom stands 0 rest := by
  induction characters with
  | nil => rfl
  | cons character others inductionHypothesis =>
      have front : frontCharacter (encode (character :: others) ++ rest) = some character := by
        rw [encode_cons, List.append_assoc, frontCharacter, List.toByteArray_append]
        exact ByteArray.utf8DecodeChar?_utf8EncodeChar_append
      obtain ⟨lead, continues, shape, -, -⟩ := utf8EncodeChar_cases character
      have size : character.utf8Size - 1 = continues.length := by
        rw [← String.length_utf8EncodeChar, shape, List.length_cons, Nat.add_sub_cancel]
      rw [encode_cons, shape, List.append_assoc, List.cons_append] at front ⊢
      rw [lossyFrom, front]
      show character :: lossyFrom stands (character.utf8Size - 1) _ = _
      rw [lossyFrom_drop, size, List.drop_left, inductionHypothesis, List.cons_append]

/-- Encoded text is read back. -/
@[simp] theorem fromUtf8Lossy_encode (characters : List Char) :
    fromUtf8Lossy (encode characters) = String.ofList characters := by
  rw [fromUtf8Lossy, ← List.append_nil (encode characters), lossyFrom_encode]
  simp [lossyFrom]

@[simp] theorem fromUtf8Lossy_utf8 (text : String) : fromUtf8Lossy (utf8 text) = text := by
  rw [utf8_eq_encode, fromUtf8Lossy_encode, String.ofList_toList]

example : fromUtf8Lossy [0x61, 0xE2, 0x82, 0x62] = String.ofList ['a', replacement, 'b'] := by
  decide

end Omairc.Text
