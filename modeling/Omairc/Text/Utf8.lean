import Mathlib.Data.List.Basic
import Omairc.Text.Strings

/-!
# Cutting encoded text

An encoded character is one byte that starts a character and the bytes that continue it.
So encoded text is cut before every byte that starts a character, and each part is the
encoding of a text.
-/

namespace Omairc.Text

/-- A byte that continues a character. -/
def isContinuation (byte : UInt8) : Bool := byte &&& 0xC0 == 0x80

/-- The continuation bytes by their values. -/
theorem isContinuation_iff (byte : UInt8) :
    isContinuation byte = true ↔ 128 ≤ byte.toNat ∧ byte.toNat < 192 := by
  revert byte
  exact byte_forall (by decide +kernel)

/-- The bytes of a list of characters. -/
def encode (characters : List Char) : Bytes := characters.flatMap String.utf8EncodeChar

@[simp] theorem encode_nil : encode [] = [] := rfl

@[simp] theorem encode_cons (character : Char) (rest : List Char) :
    encode (character :: rest) = String.utf8EncodeChar character ++ encode rest :=
  List.flatMap_cons

@[simp] theorem encode_append (front back : List Char) :
    encode (front ++ back) = encode front ++ encode back := List.flatMap_append

/-- The bytes of a text are those of its characters. -/
theorem utf8_eq_encode (text : String) : utf8 text = encode text.toList := by
  rw [encode, ← utf8_ofList, String.ofList_toList]

/-- Characters are determined by their bytes. -/
theorem encode_injective {left right : List Char} (same : encode left = encode right) :
    left = right := by
  rw [encode, encode, ← utf8_ofList, ← utf8_ofList] at same
  exact String.ofList_injective (utf8_injective same)

/-- An ASCII character is its own byte. -/
theorem utf8EncodeChar_of_lt {character : Char} (ascii : character.toNat < 128) :
    String.utf8EncodeChar character = [UInt8.ofNat character.toNat] := by
  have bound : character.val.toNat ≤ 0x7f := by
    change character.toNat ≤ 127
    omega
  unfold String.utf8EncodeChar
  exact if_pos bound

/-- The bytes of any other character are outside ASCII. -/
theorem le_of_mem_utf8EncodeChar {character : Char} (beyond : 128 ≤ character.toNat) {byte : UInt8}
    (listed : byte ∈ String.utf8EncodeChar character) : 128 ≤ byte.toNat := by
  have above : ¬character.val.toNat ≤ 0x7f := by
    change ¬character.toNat ≤ 127
    omega
  unfold String.utf8EncodeChar at listed
  simp only [above, if_false] at listed
  split at listed
  · simp only [List.mem_cons, List.not_mem_nil, or_false] at listed
    rcases listed with rfl | rfl <;> simp only [UInt8.toNat_ofNat'] <;> omega
  · split at listed
    · simp only [List.mem_cons, List.not_mem_nil, or_false] at listed
      rcases listed with rfl | rfl | rfl <;> simp only [UInt8.toNat_ofNat'] <;> omega
    · simp only [List.mem_cons, List.not_mem_nil, or_false] at listed
      rcases listed with rfl | rfl | rfl | rfl <;> simp only [UInt8.toNat_ofNat'] <;> omega

/-- A character is one byte that starts it and the bytes that continue it. -/
theorem utf8EncodeChar_cases (character : Char) :
    ∃ lead rest, String.utf8EncodeChar character = lead :: rest ∧ isContinuation lead = false ∧
      ∀ byte ∈ rest, isContinuation byte = true := by
  have starts {byte : UInt8} (outside : ¬(128 ≤ byte.toNat ∧ byte.toNat < 192)) :
      isContinuation byte = false :=
    Bool.eq_false_iff.mpr fun inside => outside ((isContinuation_iff byte).mp inside)
  unfold String.utf8EncodeChar
  dsimp only
  split
  · refine ⟨_, _, rfl, starts ?_, by simp⟩
    simp only [UInt8.toNat_ofNat']
    omega
  · split
    · refine ⟨_, _, rfl, starts ?_, ?_⟩
      · simp only [UInt8.toNat_ofNat']
        omega
      · simp only [List.mem_cons, List.not_mem_nil, or_false, isContinuation_iff]
        rintro byte rfl
        simp only [UInt8.toNat_ofNat']
        omega
    · split
      · refine ⟨_, _, rfl, starts ?_, ?_⟩
        · simp only [UInt8.toNat_ofNat']
          omega
        · simp only [List.mem_cons, List.not_mem_nil, or_false, isContinuation_iff]
          rintro byte (rfl | rfl) <;> simp only [UInt8.toNat_ofNat'] <;> omega
      · refine ⟨_, _, rfl, starts ?_, ?_⟩
        · simp only [UInt8.toNat_ofNat']
          omega
        · simp only [List.mem_cons, List.not_mem_nil, or_false, isContinuation_iff]
          rintro byte (rfl | rfl | rfl) <;> simp only [UInt8.toNat_ofNat'] <;> omega

/-- The character at the front of encoded text is read off its bytes. -/
theorem utf8EncodeChar_append_inj {first second : Char} {front back : Bytes}
    (same : String.utf8EncodeChar first ++ front = String.utf8EncodeChar second ++ back) :
    first = second := by
  have read (character : Char) (rest : Bytes) :
      (String.utf8EncodeChar character ++ rest).toByteArray.utf8DecodeChar? 0 = some character := by
    rw [List.toByteArray_append]
    exact ByteArray.utf8DecodeChar?_utf8EncodeChar_append
  have decoded := read first front
  rw [same, read second back] at decoded
  exact (Option.some.inj decoded).symm

/-- The characters behind a front of encoded text encode what stands behind it. -/
theorem encode_behind {front characters : List Char} {rest : Bytes}
    (parts : encode characters = encode front ++ rest) :
    ∃ behind, characters = front ++ behind ∧ encode behind = rest := by
  induction front generalizing characters with
  | nil => exact ⟨characters, rfl, parts⟩
  | cons first others inductionHypothesis =>
      cases characters with
      | nil =>
          obtain ⟨lead, continues, shape, -, -⟩ := utf8EncodeChar_cases first
          rw [encode_cons, shape] at parts
          cases parts
      | cons character later =>
          rw [encode_cons, encode_cons, List.append_assoc] at parts
          obtain rfl := utf8EncodeChar_append_inj parts
          obtain ⟨behind, rfl, same⟩ := inductionHypothesis (List.append_cancel_left parts)
          exact ⟨behind, rfl, same⟩

/-- Text is cut before a byte that starts a character. -/
theorem encode_cut {characters : List Char} {front back : Bytes} {byte : UInt8}
    (parts : encode characters = front ++ byte :: back) (starts : isContinuation byte = false) :
    ∃ before after, characters = before ++ after ∧ encode before = front ∧
      encode after = byte :: back := by
  induction characters generalizing front with
  | nil => exact absurd parts (by simp)
  | cons character rest inductionHypothesis =>
      cases front with
      | nil => exact ⟨[], character :: rest, rfl, rfl, parts⟩
      | cons first others =>
          obtain ⟨lead, continues, shape, -, continued⟩ := utf8EncodeChar_cases character
          rw [encode_cons, shape, List.cons_append, List.cons_append, List.cons.injEq] at parts
          obtain ⟨rfl, parts⟩ := parts
          rcases List.append_eq_append_iff.mp parts with ⟨tail, rfl, remains⟩ | ⟨tail, rfl, remains⟩
          · obtain ⟨before, after, rfl, same, rest⟩ := inductionHypothesis remains
            refine ⟨character :: before, after, rfl, ?_, rest⟩
            rw [encode_cons, shape, same, List.cons_append]
          · -- A byte inside the character would continue it.
            cases tail with
            | nil =>
                have whole : encode rest = [] ++ byte :: back := by simpa using remains.symm
                obtain ⟨before, after, rfl, same, rest⟩ := inductionHypothesis whole
                refine ⟨character :: before, after, rfl, ?_, rest⟩
                rw [encode_cons, shape, same, List.append_nil, List.append_nil]
            | cons inner _ =>
                rw [List.cons_append, List.cons.injEq] at remains
                obtain ⟨rfl, -⟩ := remains
                have inside := continued byte (by simp)
                rw [starts] at inside
                cases inside

/-- An ASCII byte is a character of its own. -/
theorem encode_eq_cons {characters : List Char} {byte : UInt8} {back : Bytes}
    (starts : encode characters = byte :: back) (ascii : byte.toNat < 128) :
    ∃ rest, characters = Char.ofNat byte.toNat :: rest ∧ encode rest = back := by
  cases characters with
  | nil => cases starts
  | cons character rest =>
      have small : character.toNat < 128 := by
        by_contra large
        obtain ⟨lead, continues, shape, -, -⟩ := utf8EncodeChar_cases character
        rw [encode_cons, shape, List.cons_append, List.cons.injEq] at starts
        have listed : lead ∈ String.utf8EncodeChar character := by
          rw [shape]
          exact List.mem_cons_self
        have bound := le_of_mem_utf8EncodeChar (Nat.le_of_not_lt large) listed
        rw [starts.1] at bound
        omega
      rw [encode_cons, utf8EncodeChar_of_lt small, List.singleton_append, List.cons.injEq] at starts
      obtain ⟨rfl, rfl⟩ := starts
      refine ⟨rest, ?_, rfl⟩
      rw [UInt8.toNat_ofNat', Nat.mod_eq_of_lt (by omega), Char.ofNat_toNat]

/-- A text holds an ASCII byte exactly when it holds its character. -/
theorem mem_utf8_iff {text : String} {byte : UInt8} (ascii : byte < 128) :
    byte ∈ utf8 text ↔ Char.ofNat byte.toNat ∈ text.toList := by
  rw [utf8_eq_encode, encode, List.mem_flatMap]
  constructor
  · rintro ⟨character, present, listed⟩
    have small : character.toNat < 128 := by
      by_contra large
      have bound := le_of_mem_utf8EncodeChar (Nat.le_of_not_lt large) listed
      exact absurd (UInt8.lt_iff_toNat_lt.mp ascii) (Nat.not_lt.mpr bound)
    rw [utf8EncodeChar_of_lt small, List.mem_singleton] at listed
    rwa [listed, UInt8.toNat_ofNat', Nat.mod_eq_of_lt (by omega), Char.ofNat_toNat]
  · intro present
    exact ⟨_, present, by rw [utf8EncodeChar_ascii byte ascii]; exact List.mem_singleton_self _⟩

/-- A text starts with an ASCII byte exactly when it starts with its character. -/
theorem utf8_head_iff {text : String} {byte : UInt8} (ascii : byte < 128) :
    (utf8 text).head? = some byte ↔ text.toList.head? = some (Char.ofNat byte.toNat) := by
  rw [utf8_eq_encode]
  constructor
  · intro starts
    obtain ⟨back, shape⟩ := List.head?_eq_some_iff.mp starts
    obtain ⟨rest, characters, -⟩ := encode_eq_cons shape (UInt8.lt_iff_toNat_lt.mp ascii)
    rw [characters, List.head?_cons]
  · intro starts
    obtain ⟨rest, characters⟩ := List.head?_eq_some_iff.mp starts
    rw [characters, encode_cons, utf8EncodeChar_ascii byte ascii]
    rfl

/-- Trimming a text that is not trimmed makes it shorter. -/
theorem byteLength_trim (text : String) :
    trim text = text ∨ byteLength (trim text) < byteLength text := by
  obtain ⟨front, leads⟩ := List.dropWhile_suffix (l := text.toList) isWhitespace
  obtain ⟨back, ends⟩ := List.rdropWhile_prefix (l := text.toList.dropWhile isWhitespace) isWhitespace
  have whole : text.toList = front ++ ((trim text).toList ++ back) := by
    rw [trim, String.toList_ofList, ends, leads]
  by_cases same : front = [] ∧ back = []
  · obtain ⟨rfl, rfl⟩ := same
    exact .inl (String.toList_injective (by simpa using whole.symm))
  · refine .inr ?_
    have some (characters : List Char) (nonempty : characters ≠ []) :
        0 < (encode characters).length := by
      obtain ⟨character, rest, rfl⟩ := List.exists_cons_of_ne_nil nonempty
      rw [encode_cons, List.length_append, String.length_utf8EncodeChar]
      have := Char.utf8Size_pos character
      omega
    rw [byteLength, byteLength, utf8_eq_encode, utf8_eq_encode, whole, encode_append, encode_append,
      List.length_append, List.length_append]
    by_cases first : front = []
    · have last := some back fun none => same ⟨first, none⟩
      omega
    · have led := some front first
      omega

end Omairc.Text
