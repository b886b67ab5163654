import Omairc.Storage.IniValues

/-!
# Reading a value that was written

A written value stays on its line and reads back, up to what the format keeps apart: a list of
one item reads as that item, and an empty list as an invalid value.
-/

namespace Omairc.Ini

open Omairc.Text

/-! ## One character -/

/-- How a character is written: with a named escape, as a zero, in hexadecimal digits, or as it
is. -/
theorem escapedCharacter_cases (digits : Bool) (character : Char) :
    (∃ letter : UInt8, escapedCharacter digits character =
        (['\\', Char.ofNat letter.toNat], false) ∧ letter < 128 ∧ isLineBreak letter = false ∧
          escapeCode letter = some character.toNat) ∨
      (character.toNat = 0 ∧ escapedCharacter digits character = (['\\', '0'], true)) ∨
      (character.toNat < 128 ∧
        escapedCharacter digits character = ('\\' :: 'x' :: hexLower character.toNat, true)) ∨
      (escapedCharacter digits character = ([character], false) ∧ 0x1F < character.toNat ∧
        character.toNat ≠ 0x22 ∧ character.toNat ≠ 0x5C ∧
        (digits = true → isHexDigit character = false)) := by
  have named (letter : UInt8) (code : Nat) (same : character.toNat = code)
      (ascii : letter < 128) (taken : isLineBreak letter = false)
      (found : escapeCode letter = some code) : letter < 128 ∧ isLineBreak letter = false ∧
        escapeCode letter = some character.toNat :=
    ⟨ascii, taken, same ▸ found⟩
  unfold escapedCharacter
  split
  · rename_i digit
    rw [Bool.and_eq_true, isHexDigit, Option.isSome_iff_exists] at digit
    obtain ⟨-, value, found⟩ := digit
    exact .inr (.inr (.inl ⟨hexValue_lt found, rfl⟩))
  · rename_i plain
    split
    · exact .inr (.inl ⟨‹_›, rfl⟩)
    · exact .inl ⟨97, rfl, named 97 _ ‹_› (by decide) rfl rfl⟩
    · exact .inl ⟨98, rfl, named 98 _ ‹_› (by decide) rfl rfl⟩
    · exact .inl ⟨102, rfl, named 102 _ ‹_› (by decide) rfl rfl⟩
    · exact .inl ⟨110, rfl, named 110 _ ‹_› (by decide) rfl rfl⟩
    · exact .inl ⟨114, rfl, named 114 _ ‹_› (by decide) rfl rfl⟩
    · exact .inl ⟨116, rfl, named 116 _ ‹_› (by decide) rfl rfl⟩
    · exact .inl ⟨118, rfl, named 118 _ ‹_› (by decide) rfl rfl⟩
    · exact .inl ⟨34, rfl, named 34 _ ‹_› (by decide) rfl rfl⟩
    · exact .inl ⟨92, rfl, named 92 _ ‹_› (by decide) rfl rfl⟩
    · rename_i quote backslash
      split
      · rename_i control
        exact .inr (.inr (.inl ⟨by omega, rfl⟩))
      · rename_i printed
        refine .inr (.inr (.inr ⟨rfl, by omega, quote, backslash, fun extends_ => ?_⟩))
        rw [extends_, Bool.true_and, Bool.not_eq_true] at plain
        exact plain

/-- The digits of a small code. -/
theorem hexLower_eq {code : Nat} (small : code < 128) :
    hexLower code =
      if code < 16 then [Nat.digitChar code] else [Nat.digitChar (code / 16), Nat.digitChar (code % 16)] := by
  have digits : ∀ code < 128, hexLower code =
      if code < 16 then [Nat.digitChar code]
      else [Nat.digitChar (code / 16), Nat.digitChar (code % 16)] := by
    decide
  exact digits code small

theorem hexValue_digitChar {digit : Nat} (small : digit < 16) :
    hexValue (Nat.digitChar digit).toNat = some digit ∧ (Nat.digitChar digit).toNat < 128 := by
  have digits : ∀ digit < 16, hexValue (Nat.digitChar digit).toNat = some digit ∧
      (Nat.digitChar digit).toNat < 128 := by
    decide
  exact digits digit small

/-- A digit is one byte. -/
theorem digitChar_byte {digit : Nat} (low : digit < 16) : ∃ byte : UInt8,
    String.utf8EncodeChar (Nat.digitChar digit) = [byte] ∧ hexValue byte.toNat = some digit := by
  obtain ⟨value, ascii⟩ := hexValue_digitChar low
  refine ⟨_, utf8EncodeChar_of_lt ascii, ?_⟩
  rw [UInt8.toNat_ofNat', Nat.mod_eq_of_lt (by omega), value]

/-- Octal digits are hexadecimal ones. -/
theorem octValue_none {code : Nat} (none_ : hexValue code = none) : octValue code = none := by
  unfold hexValue at none_
  unfold octValue
  split at none_
  · cases none_
  · rw [if_neg (by omega)]

theorem codePoint_of_character (character : Char) :
    codePoint character.toNat = String.utf8EncodeChar character := by
  have valid : character.toNat.isValidChar := character.valid
  rw [codePoint, if_pos valid, Char.ofNat_toNat]

theorem chop_length (bytes : Bytes) : chop bytes.length bytes = bytes := by
  rw [chop, List.take_length, List.drop_length, List.rdropWhile_nil, List.append_nil]

/-- Nothing is trimmed behind a byte that is no blank. -/
theorem chop_of_last {front : Bytes} {byte : UInt8} (limit : Nat) (blank : isBlank byte = false) :
    chop limit (front ++ [byte]) = front ++ [byte] := by
  have kept : ((front ++ [byte]).drop limit).rdropWhile isBlank = (front ++ [byte]).drop limit := by
    rw [List.rdropWhile_eq_self_iff]
    intro found
    rw [List.getLast_drop]
    simp [blank]
  rw [chop, kept, List.take_append_drop]

namespace ValueScan

variable {Shown : Type} (shown : Bytes → Shown) (origin : ValueScan Shown)

/-- The decoder holds the bytes of the characters so far. The last of them may be an escape that a
digit would extend. -/
inductive Holds (bytes : Bytes) : Bool → ValueStep → Bytes → Prop
  | normal (limit : Nat) : Holds bytes false (.normal limit) bytes
  | hexEscape (value : Nat) (buf : Bytes) (whole : buf ++ codePoint value = bytes) :
      Holds bytes true (.hexEscape value) buf
  | octEscape (value : Nat) (buf : Bytes) (whole : buf ++ codePoint value = bytes) :
      Holds bytes true (.octEscape value) buf

/-- A byte that extends no escape begins a normal run, or goes on with one. -/
theorem Holds.read_fresh {bytes buf : Bytes} {digits : Bool} {step : ValueStep}
    (holds : Holds bytes digits step buf) {byte : UInt8}
    (fresh : digits = true → hexValue byte.toNat = none) :
    ∃ limit, ({ origin with step, buf } : ValueScan Shown).read shown byte =
      ({ origin with buf := bytes } : ValueScan Shown).readNormal shown limit byte := by
  cases holds with
  | normal limit => exact ⟨limit, rfl⟩
  | hexEscape value buf whole =>
      have digit := fresh rfl
      refine ⟨bytes.length, ?_⟩
      subst whole
      simp only [read, digit]
      rfl
  | octEscape value buf whole =>
      have digit := octValue_none (fresh rfl)
      refine ⟨bytes.length, ?_⟩
      subst whole
      simp only [read, digit]
      rfl

/-- A backslash begins an escape. -/
theorem Holds.read_backslash {bytes buf : Bytes} {digits : Bool} {step : ValueStep}
    (holds : Holds bytes digits step buf) :
    ({ origin with step, buf } : ValueScan Shown).read shown 92 =
      { origin with step := .escape, buf := bytes } := by
  have apart : digits = true → hexValue (92 : UInt8).toNat = none := fun _ => rfl
  obtain ⟨limit, fresh⟩ := holds.read_fresh shown origin apart
  rw [fresh]
  rfl

/-- Bytes that are no special ones of the decoder. -/
theorem readNormal_plain (scan : ValueScan Shown) (limit : Nat) {byte : UInt8} (escape : byte ≠ 92)
    (quote : byte ≠ 34) (comma : byte = 44 → scan.inQuotes = true) :
    scan.readNormal shown limit byte =
      { scan with step := .normal limit, buf := scan.buf ++ [byte] } := by
  have item : ¬(byte = 44 ∧ scan.inQuotes = false) := by
    rintro ⟨same, outside⟩
    rw [comma same] at outside
    cases outside
  rw [readNormal, if_neg escape, if_neg quote, if_neg item]

theorem run_plain (limit : Nat) (front : Bytes) {bytes : Bytes} (plain : ∀ byte ∈ bytes, byte ≠ 92 ∧
    byte ≠ 34 ∧ (byte = 44 → origin.inQuotes = true)) :
    ({ origin with step := .normal limit, buf := front } : ValueScan Shown).run shown bytes =
      { origin with step := .normal limit, buf := front ++ bytes } := by
  induction bytes generalizing front with
  | nil => rw [run_nil, List.append_nil]
  | cons byte rest inductionHypothesis =>
      obtain ⟨escape, quote, comma⟩ := plain byte List.mem_cons_self
      have others := inductionHypothesis (front ++ [byte])
        fun other there => plain other (List.mem_cons_of_mem _ there)
      rw [List.append_assoc, List.singleton_append] at others
      rw [run_cons, ← others]
      exact congrArg (fun scan => run shown scan rest)
        (readNormal_plain shown { origin with step := .normal limit, buf := front } limit escape quote comma)

/-- The bytes of a character that is written as it is. -/
theorem plain_of_character {character : Char} (control : 0x1F < character.toNat)
    (quote : character.toNat ≠ 0x22) (backslash : character.toNat ≠ 0x5C) :
    ∃ front last, String.utf8EncodeChar character = front ++ [last] ∧
      (∀ byte ∈ front ++ [last], byte ≠ 92 ∧ byte ≠ 34 ∧ (byte = 44 → character = ',') ∧
        (isHexDigit character = false → hexValue byte.toNat = none)) ∧
      (character ≠ ' ' → ∀ byte ∈ front ++ [last], isBlank byte = false) := by
  by_cases ascii : character.toNat < 128
  · have byte_eq (code : Nat) (small : code < 128) (same : UInt8.ofNat character.toNat = UInt8.ofNat code) :
        character.toNat = code := by
      have codes := congrArg UInt8.toNat same
      rw [UInt8.toNat_ofNat', UInt8.toNat_ofNat'] at codes
      omega
    have character_eq (other : Char) (same : character.toNat = other.toNat) : character = other :=
      Char.ext (UInt32.toNat_inj.mp same)
    refine ⟨[], UInt8.ofNat character.toNat, utf8EncodeChar_of_lt ascii, ?_, ?_⟩
    · intro byte listed
      rw [List.nil_append, List.mem_singleton] at listed
      subst listed
      refine ⟨fun same => backslash (byte_eq 92 (by decide) same),
        fun same => quote (byte_eq 34 (by decide) same),
        fun same => character_eq ',' (byte_eq 44 (by decide) same), fun digit => ?_⟩
      rw [UInt8.toNat_ofNat', Nat.mod_eq_of_lt (by omega)]
      exact Option.isSome_eq_false_iff.mp digit |> Option.isNone_iff_eq_none.mp
    · intro other byte listed
      rw [List.nil_append, List.mem_singleton] at listed
      subst listed
      have space : UInt8.ofNat character.toNat ≠ 32 := fun same =>
        other (character_eq ' ' (byte_eq 32 (by decide) same))
      have tab : UInt8.ofNat character.toNat ≠ 9 := fun same => by
        have code := byte_eq 9 (by decide) same
        omega
      rw [isBlank, Bool.or_eq_false_iff]
      exact ⟨beq_false_of_ne space, beq_false_of_ne tab⟩
  · have large : ∀ byte ∈ String.utf8EncodeChar character, 128 ≤ byte.toNat := fun byte listed =>
      le_of_mem_utf8EncodeChar (Nat.le_of_not_lt ascii) listed
    have shape : String.utf8EncodeChar character ≠ [] := by
      obtain ⟨lead, rest, shape, -⟩ := utf8EncodeChar_cases character
      rw [shape]
      exact List.cons_ne_nil _ _
    have whole := List.dropLast_append_getLast shape
    have apart {byte : UInt8} (bound : 128 ≤ byte.toNat) (code : UInt8) (small : code.toNat < 128) :
        byte ≠ code := by
      rintro rfl
      omega
    refine ⟨_, _, whole.symm, ?_, fun _ byte listed => ?_⟩
    · intro byte listed
      rw [whole] at listed
      have bound := large byte listed
      refine ⟨apart bound 92 (by decide), apart bound 34 (by decide),
        fun same => absurd same (apart bound 44 (by decide)), fun _ => ?_⟩
      by_contra digit
      obtain ⟨value, found⟩ := Option.ne_none_iff_exists'.mp digit
      have small := hexValue_lt found
      omega
    · have bound := large byte (whole ▸ listed)
      rw [isBlank, Bool.or_eq_false_iff]
      exact ⟨beq_false_of_ne (apart bound 32 (by decide)), beq_false_of_ne (apart bound 9 (by decide))⟩

/-- The digits of a small code behind the start of an escape. -/
theorem run_hexLower {code : Nat} (small : code < 128) (scan : ValueScan Shown) :
    ({ scan with step := .hexStart } : ValueScan Shown).run shown (encode (hexLower code)) =
      { scan with step := .hexEscape code } := by
  rw [hexLower_eq small]
  split
  · rename_i low
    obtain ⟨first, shape, value⟩ := digitChar_byte low
    rw [encode_cons, shape, encode_nil, List.append_nil, run_cons, run_nil]
    simp only [read, value]
  · obtain ⟨first, shape, value⟩ := digitChar_byte (show code / 16 < 16 by omega)
    obtain ⟨second, shape', value'⟩ := digitChar_byte (show code % 16 < 16 by omega)
    have whole : (code / 16 * 16 + code % 16) % 2 ^ 32 = code := by omega
    rw [encode_cons, encode_cons, shape, shape', encode_nil, List.append_nil, List.singleton_append,
      run_cons, run_cons, run_nil]
    simp only [read, value, value', whole]

/-- What is written of a character reads as that character. -/
theorem Holds.run_character {bytes buf : Bytes} {digits : Bool} {step : ValueStep}
    (holds : Holds bytes digits step buf) {character : Char}
    (comma : character = ',' → origin.inQuotes = true) :
    ∃ after rest, ({ origin with step, buf } : ValueScan Shown).run shown
        (encode (escapedCharacter digits character).1) =
          { origin with step := after, buf := rest } ∧
      Holds (bytes ++ String.utf8EncodeChar character) (escapedCharacter digits character).2 after
        rest ∧
      (character ≠ ' ' → ({ origin with step := after, buf := rest } : ValueScan Shown).item =
        bytes ++ String.utf8EncodeChar character) := by
  have backslash := holds.read_backslash shown origin
  have settled (bytes : Bytes) : ({ origin with
      step := .normal bytes.length, buf := bytes } : ValueScan Shown).item = bytes := by
    show (if origin.currentQuoted then bytes else chop bytes.length bytes) = bytes
    rw [chop_length, ite_self]
  rcases escapedCharacter_cases digits character with
    ⟨letter, written, ascii, taken, code⟩ | ⟨zero, written⟩ | ⟨small, written⟩ |
      ⟨written, control, quote, slash, digit⟩
  · -- A named escape is pushed at once.
    refine ⟨.normal (bytes ++ String.utf8EncodeChar character).length,
      bytes ++ String.utf8EncodeChar character, ?_, ?_, fun _ => settled _⟩
    · rw [written, encode_cons, encode_cons, utf8EncodeChar_ascii letter ascii, encode_nil,
        List.append_nil]
      show ValueScan.run shown _ [92, letter] = _
      rw [run_cons, backslash, run_cons, run_nil]
      simp only [read, code, push, codePoint_of_character]
    · rw [written]
      exact .normal _
  · -- A zero is an octal escape that another digit would extend.
    refine ⟨.octEscape 0, bytes, ?_, ?_, fun _ => ?_⟩
    · rw [written]
      show ValueScan.run shown _ [92, 48] = _
      rw [run_cons, backslash]
      rfl
    · rw [written]
      refine .octEscape 0 bytes ?_
      rw [← codePoint_of_character, zero]
    · rw [← codePoint_of_character, zero]
      rfl
  · refine ⟨.hexEscape character.toNat, bytes, ?_, ?_, fun _ => ?_⟩
    · rw [written, encode_cons, encode_cons]
      show ValueScan.run shown _ (92 :: 120 :: encode (hexLower character.toNat)) = _
      rw [run_cons, backslash, run_cons]
      exact run_hexLower shown small { origin with buf := bytes }
    · rw [written]
      refine .hexEscape _ bytes ?_
      rw [codePoint_of_character]
    · rw [← codePoint_of_character]
      rfl
  · obtain ⟨front, last, shape, plain, blank⟩ := plain_of_character control quote slash
    obtain ⟨first, others, whole⟩ : ∃ first others, front ++ [last] = first :: others :=
      List.exists_cons_of_ne_nil (by simp)
    rw [written, shape, encode_cons, encode_nil, List.append_nil, shape]
    have bytes_plain : ∀ byte ∈ first :: others, byte ≠ 92 ∧ byte ≠ 34 ∧
        (byte = 44 → origin.inQuotes = true) := by
      intro byte listed
      obtain ⟨escape, mark, separator, -⟩ := plain byte (whole ▸ listed)
      exact ⟨escape, mark, fun same => comma (separator same)⟩
    have fresh : digits = true → hexValue first.toNat = none := fun extends_ =>
      (plain first (whole ▸ List.mem_cons_self)).2.2.2 (digit extends_)
    obtain ⟨limit, begun⟩ := holds.read_fresh shown origin fresh
    refine ⟨.normal limit, bytes ++ (front ++ [last]), ?_, .normal limit, fun other => ?_⟩
    · obtain ⟨escape, mark, separator⟩ := bytes_plain first List.mem_cons_self
      have rest := run_plain shown origin limit (bytes ++ [first])
        fun byte listed => bytes_plain byte (List.mem_cons_of_mem _ listed)
      rw [whole, run_cons, begun,
        readNormal_plain shown { origin with buf := bytes } limit escape mark separator]
      rw [List.append_assoc, List.singleton_append] at rest
      exact rest
    · show (if origin.currentQuoted then _ else chop limit (bytes ++ (front ++ [last]))) = _
      rw [← List.append_assoc, chop_of_last limit (blank other last (by simp)), ite_self]

/-- What is written of a text reads as that text, and nothing is trimmed unless it ends with a
space. -/
theorem Holds.run_text {bytes buf : Bytes} {digits : Bool} {step : ValueStep}
    (holds : Holds bytes digits step buf) (text : List Char)
    (commas : ',' ∈ text → origin.inQuotes = true) :
    ∃ after rest next, ({ origin with step, buf } : ValueScan Shown).run shown
        (encode (escapedText digits text)) = { origin with step := after, buf := rest } ∧
      Holds (bytes ++ encode text) next after rest ∧
      (text.getLast?.any (· != ' ') = true →
        ({ origin with step := after, buf := rest } : ValueScan Shown).item =
          bytes ++ encode text) := by
  induction text generalizing bytes buf digits step with
  | nil =>
      refine ⟨step, buf, digits, rfl, ?_, nofun⟩
      rw [encode_nil, List.append_nil]
      exact holds
  | cons character others inductionHypothesis =>
      obtain ⟨middle, between, read, held, clean⟩ := holds.run_character shown origin
        fun same => commas (same ▸ List.mem_cons_self)
      obtain ⟨after, rest, next, reads, holds, cleans⟩ := inductionHypothesis held
        fun listed => commas (List.mem_cons_of_mem _ listed)
      rw [List.append_assoc, ← encode_cons] at holds cleans
      refine ⟨after, rest, next, ?_, holds, fun last => ?_⟩
      · rw [escapedText_cons, encode_append, run_append, read]
        exact reads
      · cases others with
        | nil =>
            cases reads
            rw [encode_cons, encode_nil, List.append_nil]
            refine clean ?_
            simpa using last
        | cons second others => exact cleans (by simpa [List.getLast?_cons_cons] using last)

/-- The decoder before an item. -/
structure Fresh (scan : ValueScan Shown) : Prop where
  step : scan.step = .skipSpaces
  buf : scan.buf = []
  inQuotes : scan.inQuotes = false
  currentQuoted : scan.currentQuoted = false

/-- The decoder behind a whole item. -/
structure Reached (origin scan : ValueScan Shown) (bytes : Bytes) : Prop where
  item : scan.item = bytes
  items : scan.items = origin.items
  isList : scan.isList = origin.isList
  inQuotes : scan.inQuotes = false
  whole : scan.step ≠ .escape ∧ scan.step ≠ .hexStart ∧ ∀ taken, scan.step ≠ .lineBreak taken

/-- The decoder behind the comma after an item. -/
def nextItem (scan : ValueScan Shown) : ValueScan Shown :=
  { items := (if scan.isList then scan.items else []) ++ [shown scan.item], isList := true }

theorem fresh_nextItem (scan : ValueScan Shown) : (scan.nextItem shown).Fresh :=
  ⟨rfl, rfl, rfl, rfl⟩

/-- A comma ends an item. -/
theorem Reached.read_comma {scan : ValueScan Shown} {bytes : Bytes}
    (reached : Reached origin scan bytes) : scan.read shown 44 = scan.nextItem shown := by
  obtain ⟨-, -, -, outside, escape, hexStart, lineBreak⟩ := reached
  have normal (scan : ValueScan Shown) (limit : Nat) (outside : scan.inQuotes = false) :
      scan.readNormal shown limit 44 =
        { items := (if scan.isList then scan.items else []) ++
            [shown (if scan.currentQuoted then scan.buf else chop limit scan.buf)]
          isList := true } := by
    rw [readNormal, if_neg (by decide), if_neg (by decide), if_pos ⟨rfl, outside⟩, outside]
  have resumed (scan : ValueScan Shown) (outside : scan.inQuotes = false) :
      scan.readResumed shown 44 =
        { items := (if scan.isList then scan.items else []) ++ [shown scan.buf]
          isList := true } := by
    rw [readResumed, normal scan _ outside, chop_length, ite_self]
  unfold nextItem ValueScan.item
  cases at_ : scan.step with
  | skipSpaces =>
      simp only [read, at_]
      exact resumed scan outside
  | normal limit =>
      simp only [read, at_]
      exact normal scan limit outside
  | escape => exact absurd at_ escape
  | hexStart => exact absurd at_ hexStart
  | hexEscape value =>
      simp only [read, at_]
      exact resumed (scan.push value) outside
  | octEscape value =>
      simp only [read, at_]
      exact resumed (scan.push value) outside
  | lineBreak taken => exact absurd at_ (lineBreak taken)

end ValueScan

theorem escapedText_head {text : List Char} (space : text.head? = some ' ') :
    (escapedText false text).head? = some ' ' := by
  cases text with
  | nil => cases space
  | cons character rest =>
      cases space
      rfl

theorem escapedText_last {text : List Char} {digits : Bool} (space : text.getLast? = some ' ') :
    (escapedText digits text).getLast? = some ' ' := by
  induction text generalizing digits with
  | nil => cases space
  | cons character rest inductionHypothesis =>
      cases rest with
      | nil =>
          cases space
          cases digits <;> rfl
      | cons second rest =>
          rw [List.getLast?_cons_cons] at space
          rw [escapedText_cons, List.getLast?_append, inductionHypothesis space]
          rfl

/-- What is written of a text that begins with no space begins with no blank. -/
theorem escapedText_begins {character : Char} (space : character ≠ ' ') (rest : List Char) :
    ∃ first others, encode (escapedText false (character :: rest)) = first :: others ∧
      isBlank first = false := by
  rw [escapedText_cons, encode_append]
  rcases escapedCharacter_cases false character with
    ⟨letter, written, -⟩ | ⟨-, written⟩ | ⟨-, written⟩ | ⟨written, control, quote, slash, -⟩
  · exact ⟨92, _, by rw [written]; rfl, rfl⟩
  · exact ⟨92, _, by rw [written]; rfl, rfl⟩
  · exact ⟨92, _, by rw [written]; rfl, rfl⟩
  · obtain ⟨front, last, shape, -, blank⟩ := ValueScan.plain_of_character control quote slash
    obtain ⟨first, others, whole⟩ : ∃ first others, front ++ [last] = first :: others :=
      List.exists_cons_of_ne_nil (by simp)
    refine ⟨first, others ++ encode (escapedText false rest), ?_,
      blank space first (whole ▸ List.mem_cons_self)⟩
    rw [written, encode_cons, encode_nil, List.append_nil, shape, whole, List.cons_append]

namespace ValueScan

variable {Shown : Type} (shown : Bytes → Shown) {scan : ValueScan Shown}

/-- A text that is written reads as that text. -/
theorem Fresh.run_escapedString (fresh : scan.Fresh) (text : String) :
    Reached scan (scan.run shown (utf8 (iniEscapedString text))) (utf8 text) := by
  obtain ⟨at_, empty, outside, unquoted⟩ := fresh
  have begun : Holds [] false (.normal 0) [] := .normal 0
  rw [iniEscapedString, utf8_ofList, utf8_eq_encode text]
  show Reached scan (scan.run shown (encode _)) _
  split
  · -- Behind the first quote a comma is an ordinary byte, and behind the second nothing is trimmed.
    obtain ⟨after, rest, next, reads, holds, -⟩ := begun.run_text shown
      { scan with currentQuoted := true, inQuotes := true } text.toList fun _ => rfl
    have apart : next = true → hexValue (34 : UInt8).toNat = none := fun _ => rfl
    obtain ⟨limit, closed⟩ := holds.read_fresh shown
      { scan with currentQuoted := true, inQuotes := true } apart
    have opened : scan.read shown 34 =
        { scan with
          currentQuoted := true, inQuotes := true, step := .normal 0, buf := [] } := by
      simp only [read, at_, readResumed, readNormal, outside, empty]
      rfl
    have whole : scan.run shown (encode ('"' :: escapedText false text.toList ++ ['"'])) =
        { scan with
          currentQuoted := true, inQuotes := false, step := .skipSpaces
          buf := encode text.toList } := by
      rw [List.cons_append, encode_cons, encode_append]
      show scan.run shown (34 :: (encode (escapedText false text.toList) ++ [34])) = _
      rw [run_cons, opened, run_append, reads, run_cons, closed]
      rfl
    rw [whole]
    exact ⟨rfl, rfl, rfl, rfl, nofun, nofun, nofun⟩
  · rename_i plain
    rw [needsQuotes, Bool.not_eq_true, Bool.or_eq_false_iff, Bool.or_eq_false_iff] at plain
    obtain ⟨⟨separators, front⟩, back⟩ := plain
    have commas : ',' ∈ text.toList → scan.inQuotes = true := fun listed =>
      absurd (List.any_eq_false.mp separators ',' listed) (by decide)
    obtain ⟨after, rest, next, reads, holds, clean⟩ :=
      begun.run_text shown scan text.toList commas
    cases characters : text.toList with
    | nil =>
        show Reached scan scan []
        refine ⟨?_, rfl, rfl, outside, ?_⟩
        · rw [item, at_]
          exact empty
        · rw [at_]
          exact ⟨nofun, nofun, nofun⟩
    | cons character others =>
        rw [characters] at reads holds clean front back
        have space : character ≠ ' ' := by
          rintro rfl
          rw [escapedText_head rfl] at front
          cases front
        have last : (character :: others).getLast?.any (· != ' ') = true := by
          cases found : (character :: others).getLast? with
          | none => exact absurd (List.getLast?_eq_none_iff.mp found) (List.cons_ne_nil _ _)
          | some other =>
              refine bne_iff_ne.mpr ?_
              rintro rfl
              rw [escapedText_last found] at back
              cases back
        obtain ⟨first, written, shape, blank⟩ := escapedText_begins space others
        have lead : scan.read shown first =
            ({ scan with step := .normal 0, buf := [] } : ValueScan Shown).read shown first := by
          simp only [read, at_, blank, Bool.false_eq_true, if_false, readResumed, empty,
            List.length_nil]
          simp only [readNormal, empty]
        have run : scan.run shown (encode (escapedText false (character :: others))) =
            { scan with step := after, buf := rest } := by
          rw [← reads, shape, run_cons, run_cons, lead]
        rw [run]
        refine ⟨clean last, rfl, rfl, outside, ?_⟩
        cases holds with
        | normal => exact ⟨nofun, nofun, nofun⟩
        | hexEscape => exact ⟨nofun, nofun, nofun⟩
        | octEscape => exact ⟨nofun, nofun, nofun⟩

end ValueScan

/-! ## Whole values -/

namespace ValueScan

variable {Shown : Type} (shown : Bytes → Shown) {scan : ValueScan Shown}

/-- Items that are written read as those items. -/
theorem Fresh.run_list (fresh : scan.Fresh) (items : List String) (last : String) :
    ∃ before, Reached before
        (scan.run shown (utf8 (joinTexts ", " ((items ++ [last]).map iniEscapedString))))
        (utf8 last) ∧
      before.isList = (scan.isList || !items.isEmpty) ∧
      (before.isList = true → before.items =
        (if scan.isList then scan.items else []) ++ items.map fun item => shown (utf8 item)) := by
  induction items generalizing scan with
  | nil =>
      refine ⟨scan, ?_, (Bool.or_false _).symm, fun listed => ?_⟩
      · rw [List.nil_append, List.map_singleton, joinTexts_single]
        exact fresh.run_escapedString shown last
      · rw [if_pos listed, List.map_nil, List.append_nil]
  | cons item others inductionHypothesis =>
      have reached := fresh.run_escapedString shown item
      obtain ⟨before, held, isList, items⟩ :=
        inductionHypothesis (fresh_nextItem shown (scan.run shown (utf8 (iniEscapedString item))))
      refine ⟨before, ?_, ?_, fun listed => ?_⟩
      · obtain ⟨second, rest, shape⟩ : ∃ second rest,
            (others ++ [last]).map iniEscapedString = second :: rest :=
          List.exists_cons_of_ne_nil (by simp)
        have separator : utf8 ", " = [44, 32] := rfl
        rw [shape] at held
        rw [List.cons_append, List.map_cons, shape, joinTexts_cons, run_append, separator,
          List.cons_append, run_cons, reached.read_comma shown]
        exact held
      · rw [isList]
        simp [nextItem]
      · rw [items listed]
        simp [nextItem, reached.item, reached.items, reached.isList]

end ValueScan

/-- What a value reads as once it is written. A list of one item is written without a comma and
reads as that text, and an empty list reads as an invalid value. -/
def IniValue.readBack : IniValue → IniValue
  | .text plain => .text plain
  | .variant encoded => sentinel encoded
  | .list [] => .invalid
  | .list [item] => sentinel item
  | .list items => .list items
  | .invalid => .invalid

/-- One text. -/
theorem iniUnescapedStringList_text (text : String) :
    iniUnescapedStringList (utf8 (iniEscapedString text)) = sentinel text := by
  have fresh : ValueScan.Fresh ({} : ValueScan String) := ⟨rfl, rfl, rfl, rfl⟩
  have reached := fresh.run_escapedString fromUtf8Lossy text
  rw [iniUnescapedStringList, reached.isList, reached.item, fromUtf8Lossy_utf8]
  rfl

/-- A string with one more at sign is read without it. -/
theorem sentinel_at {text : String} (at_ : startsWithChar text '@' = true) :
    sentinel ("@" ++ text) = .text text := by
  obtain ⟨rest, shape⟩ : ∃ rest, text.toList = '@' :: rest := by
    rw [startsWithChar, beq_iff_eq] at at_
    exact List.head?_eq_some_iff.mp at_
  have characters : ("@" ++ text).toList = '@' :: '@' :: rest := by
    rw [String.toList_append, shape]
    rfl
  have other : "@" ++ text ≠ "@Invalid()" := by
    intro same
    rw [same] at characters
    cases characters
  rw [sentinel, if_neg other, characters]
  show IniValue.text (String.ofList ('@' :: rest)) = _
  rw [← shape, String.ofList_toList]

theorem sentinel_plain {text : String} (at_ : startsWithChar text '@' = false) :
    sentinel text = .text text := by
  have other : text ≠ "@Invalid()" := by
    rintro rfl
    cases at_
  rw [sentinel, if_neg other]
  split
  · rename_i shape
    rw [startsWithChar, shape] at at_
    cases at_
  · rename_i shape
    rw [startsWithChar, shape] at at_
    cases at_
  · rfl

/-- A written value is read back. -/
theorem iniUnescapedStringList_encodeValue (value : IniValue) :
    iniUnescapedStringList (utf8 (encodeValue value)) = value.readBack := by
  have invalid : iniUnescapedStringList (utf8 "@Invalid()") = .invalid :=
    iniUnescapedStringList_text "@Invalid()"
  cases value with
  | text plain =>
      rw [encodeValue]
      split
      · rename_i at_
        rw [iniUnescapedStringList_text, sentinel_at at_]
        rfl
      · rename_i at_
        rw [iniUnescapedStringList_text, sentinel_plain (Bool.eq_false_iff.mpr at_)]
        rfl
  | variant encoded =>
      rw [encodeValue, iniUnescapedStringList_text]
      rfl
  | list items =>
      rw [encodeValue, iniEscapedStringList]
      match items with
      | [] => exact invalid
      | [item] =>
          rw [if_neg (by simp)]
          rw [List.map_singleton, joinTexts_single, iniUnescapedStringList_text]
          rfl
      | first :: second :: rest =>
          obtain ⟨front, last, whole, several⟩ :
              ∃ front last, first :: second :: rest = front ++ [last] ∧ front.isEmpty = false :=
            ⟨(first :: second :: rest).dropLast, _, (List.dropLast_append_getLast (by simp)).symm,
              by simp⟩
          have fresh : ValueScan.Fresh ({} : ValueScan String) := ⟨rfl, rfl, rfl, rfl⟩
          obtain ⟨before, reached, isList, listed⟩ := fresh.run_list fromUtf8Lossy front last
          have taken : before.isList = true := by
            rw [isList, several]
            rfl
          have kept : before.items = front := by
            rw [listed taken]
            simp
          rw [if_neg (by simp), whole, iniUnescapedStringList, reached.isList, reached.items,
            reached.item, taken, if_pos rfl, fromUtf8Lossy_utf8, kept, ← whole]
          rfl
  | invalid => exact invalid

/-! ## On a line -/

theorem plain_of_hexValue (byte : UInt8) :
    (hexValue byte.toNat).isSome = true → isPlainByte byte = true := by
  revert byte
  exact byte_forall (by decide +kernel)

theorem plain_of_hexLower {code : Nat} (small : code < 128) {byte : UInt8}
    (listed : byte ∈ encode (hexLower code)) : isPlainByte byte = true := by
  have digit {digit : Nat} (low : digit < 16)
      (listed : byte ∈ String.utf8EncodeChar (Nat.digitChar digit)) : isPlainByte byte = true := by
    obtain ⟨same, shape, value⟩ := digitChar_byte low
    rw [shape, List.mem_singleton] at listed
    refine plain_of_hexValue byte ?_
    rw [listed, value]
    rfl
  rw [hexLower_eq small] at listed
  split at listed
  · rename_i low
    rw [encode_cons, encode_nil, List.append_nil] at listed
    exact digit low listed
  · rw [encode_cons, encode_cons, encode_nil, List.append_nil, List.mem_append] at listed
    rcases listed with high | low
    · exact digit (by omega) high
    · exact digit (by omega) low

/-- The bytes of a character that is written as it is and is no mark. -/
theorem plain_of_printed {character : Char} (control : 0x1F < character.toNat)
    (quote : character.toNat ≠ 0x22) (backslash : character.toNat ≠ 0x5C)
    (semicolon : character ≠ ';') (equals : character ≠ '=') {byte : UInt8}
    (listed : byte ∈ String.utf8EncodeChar character) : isPlainByte byte = true := by
  have character_eq (other : Char) (same : character.toNat = other.toNat) : character = other :=
    Char.ext (UInt32.toNat_inj.mp same)
  have low : ∀ code < 128, isPlainByte (UInt8.ofNat code) = false →
      code ≤ 0x1F ∨ code = 0x22 ∨ code = 0x5C ∨ code = 59 ∨ code = 61 := by
    decide
  have high : ∀ byte : UInt8, 128 ≤ byte.toNat → isPlainByte byte = true :=
    byte_forall (by decide +kernel)
  by_cases ascii : character.toNat < 128
  · rw [utf8EncodeChar_of_lt ascii, List.mem_singleton] at listed
    have other : character.toNat ≠ 59 := fun same => semicolon (character_eq ';' same)
    have apart : character.toNat ≠ 61 := fun same => equals (character_eq '=' same)
    rw [listed]
    by_contra special
    have codes := low _ ascii (Bool.eq_false_iff.mpr special)
    omega
  · exact high byte (le_of_mem_utf8EncodeChar (Nat.le_of_not_lt ascii) listed)

namespace LineScan

variable (inQuotes : Bool) (line : Bytes) (equals : Option Nat)

/-- What is written of a character stays on its line. -/
theorem reads_character (digits : Bool) {character : Char}
    (marks : character = ';' ∨ character = '=' → inQuotes = true) :
    Reads ⟨.body inQuotes, ⟨line, equals⟩⟩ (encode (escapedCharacter digits character).1)
      ⟨.body inQuotes, ⟨line ++ encode (escapedCharacter digits character).1, equals⟩⟩ := by
  rcases escapedCharacter_cases digits character with
    ⟨letter, written, ascii, taken, code⟩ | ⟨zero, written⟩ | ⟨small, written⟩ |
      ⟨written, control, quote, slash, digit⟩
  · rw [written, encode_cons, encode_cons, utf8EncodeChar_ascii letter ascii, encode_nil,
      List.append_nil]
    exact reads_escape inQuotes line _ taken
  · rw [written]
    exact reads_escape inQuotes line _ rfl
  · have begun : Reads ⟨.body inQuotes, ⟨line, equals⟩⟩ [92, 120] _ :=
      reads_escape inQuotes line _ rfl
    have whole := begun.append (reads_plain inQuotes (line ++ [92, 120]) equals
      fun byte => plain_of_hexLower small)
    rw [List.append_assoc] at whole
    rw [written]
    exact whole
  · rw [written, encode_cons, encode_nil, List.append_nil]
    by_cases mark : character = ';'
    · cases mark
      rw [marks (.inl rfl)]
      exact reads_semicolon line _
    by_cases divides : character = '='
    · cases divides
      rw [marks (.inr rfl)]
      exact reads_quoted_equals line _
    · exact reads_plain inQuotes line _
        fun byte => plain_of_printed control quote slash mark divides

/-- What is written of a text stays on its line. -/
theorem reads_text (digits : Bool) {characters : List Char}
    (marks : ';' ∈ characters ∨ '=' ∈ characters → inQuotes = true) :
    Reads ⟨.body inQuotes, ⟨line, equals⟩⟩ (encode (escapedText digits characters))
      ⟨.body inQuotes, ⟨line ++ encode (escapedText digits characters), equals⟩⟩ := by
  induction characters generalizing line digits with
  | nil =>
      show Reads _ [] ⟨_, ⟨line ++ [], _⟩⟩
      rw [List.append_nil]
      exact .nil _
  | cons character rest inductionHypothesis =>
      have begins : character = ';' ∨ character = '=' → inQuotes = true := by
        rintro (rfl | rfl)
        · exact marks (.inl List.mem_cons_self)
        · exact marks (.inr List.mem_cons_self)
      have begun := reads_character inQuotes line equals digits begins
      have others := inductionHypothesis
        (line ++ encode (escapedCharacter digits character).1) (escapedCharacter digits character).2
        fun listed => marks (listed.imp (List.mem_cons_of_mem _) (List.mem_cons_of_mem _))
      rw [List.append_assoc] at others
      rw [escapedText_cons, encode_append]
      exact begun.append others

theorem reads_escapedString (value : String) :
    Reads ⟨.body false, ⟨line, equals⟩⟩ (utf8 (iniEscapedString value))
      ⟨.body false, ⟨line ++ utf8 (iniEscapedString value), equals⟩⟩ := by
  rw [iniEscapedString, utf8_ofList]
  show Reads _ (encode _) ⟨_, ⟨line ++ encode _, _⟩⟩
  split
  · have opened := reads_quote false line equals
    have quoted : ';' ∈ value.toList ∨ '=' ∈ value.toList → true = true := fun _ => rfl
    have inside := reads_text true (line ++ [34]) equals false quoted
    have closed := reads_quote true (line ++ [34] ++ encode (escapedText false value.toList))
      equals
    have whole := opened.append (inside.append closed)
    rw [List.append_assoc, List.append_assoc] at whole
    rw [List.cons_append, encode_cons, encode_append]
    exact whole
  · rename_i plain
    refine reads_text false line equals false fun listed => absurd ?_ plain
    rw [needsQuotes, Bool.or_eq_true, Bool.or_eq_true, List.any_eq_true]
    rcases listed with semicolon | divides
    · exact .inl (.inl ⟨';', semicolon, rfl⟩)
    · exact .inl (.inl ⟨'=', divides, rfl⟩)

/-- A written value stays on its line. -/
theorem reads_encodeValue (value : IniValue) :
    Reads ⟨.body false, ⟨line, equals⟩⟩ (utf8 (encodeValue value))
      ⟨.body false, ⟨line ++ utf8 (encodeValue value), equals⟩⟩ := by
  have invalid : iniEscapedString "@Invalid()" = "@Invalid()" := by decide
  have items (texts : List String) : ∀ (line : Bytes) (item : String),
      Reads ⟨.body false, ⟨line, equals⟩⟩
        (utf8 (joinTexts ", " ((item :: texts).map iniEscapedString)))
        ⟨.body false,
          ⟨line ++ utf8 (joinTexts ", " ((item :: texts).map iniEscapedString)), equals⟩⟩ := by
    induction texts with
    | nil =>
        intro line item
        rw [List.map_singleton, joinTexts_single]
        exact reads_escapedString line equals item
    | cons next rest inductionHypothesis =>
        intro line item
        have begun := reads_escapedString line equals item
        have marks : ([44, 32] : Bytes).all isPlainByte = true := by decide
        have comma := reads_plain false (line ++ utf8 (iniEscapedString item)) equals
          (List.all_eq_true.mp marks)
        have others := inductionHypothesis (line ++ utf8 (iniEscapedString item) ++ [44, 32]) next
        have whole := begun.append (comma.append others)
        rw [List.append_assoc, List.append_assoc] at whole
        rw [List.map_cons, List.map_cons, joinTexts_cons, ← List.map_cons]
        exact whole
  cases value with
  | text plain =>
      rw [encodeValue]
      split
      · exact reads_escapedString line equals _
      · exact reads_escapedString line equals _
  | variant encoded => exact reads_escapedString line equals encoded
  | list texts =>
      cases texts with
      | nil =>
          rw [encodeValue, iniEscapedStringList, if_pos rfl, ← invalid]
          exact reads_escapedString line equals _
      | cons item texts =>
          rw [encodeValue, iniEscapedStringList, if_neg (List.cons_ne_nil _ _)]
          exact items texts line item
  | invalid =>
      rw [encodeValue, ← invalid]
      exact reads_escapedString line equals _

end LineScan

example : encodeValue (.text "@a;\x001") = "\"@@a;\\0\\x31\"" ∧
    iniUnescapedStringList (utf8 "\"a, b\" , c ") = .list ["a, b", "c"] := by
  decide

end Omairc.Ini
