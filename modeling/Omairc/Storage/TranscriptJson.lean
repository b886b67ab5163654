import Omairc.Storage.StoragePath
import Omairc.Text.Utf8

/-!
# The JSON of a stored line

One stored line is one JSON object: its fields in order, the last two only when they say
something. A text is quoted, with its quotes, backslashes and control bytes escaped, so an
object is one line of text.
-/

namespace Omairc.Storage

open Omairc.Text

/-- The fields of one stored line. -/
structure ConversationLogRecord where
  timestamp : String
  author : String
  kind : String
  body : String
  msgid : String := ""
  onlyVisibleToYou : Bool := false

/-- The escapes of one letter. -/
def shortEscapes : List (UInt8 × UInt8) :=
  [(34, 34), (92, 92), (8, 98), (12, 102), (10, 110), (13, 114), (9, 116)]

/-- One byte of a text in a quoted text. -/
def jsonByte (byte : UInt8) : Bytes :=
  match shortEscapes.find? fun (plain, _) => plain = byte with
  | some (_, letter) => [92, letter]
  | none => if byte < 32 then [92, 117, 48, 48] ++ encode (hexByte byte) else [byte]

/-- A quoted text, with what follows it. -/
def quoted (bytes : Bytes) (rest : Bytes) : Bytes := 34 :: (bytes.flatMap jsonByte ++ 34 :: rest)

/-- The byte behind an escape of one letter. -/
def shortEscape (letter : UInt8) : Option UInt8 :=
  (shortEscapes.find? fun (_, other) => other = letter).map Prod.fst

/-- Read a quoted text behind its first quote: its bytes, and what follows it. -/
def readQuoted : Bytes → Option (Bytes × Bytes)
  | [] => none
  | byte :: rest =>
      if byte = 34 then some ([], rest)
      else if byte ≠ 92 then (readQuoted rest).map fun (bytes, more) => (byte :: bytes, more)
      else
        match rest with
        | [] => none
        | letter :: rest =>
            match shortEscape letter with
            | some plain => (readQuoted rest).map fun (bytes, more) => (plain :: bytes, more)
            | none =>
                match rest with
                | _ :: _ :: high :: low :: rest =>
                    match if letter = 117 then hexByteValue high low else none with
                    | some value => (readQuoted rest).map fun (bytes, more) => (value :: bytes, more)
                    | none => none
                | _ => none

/-- What stands behind a fixed text. -/
def stripText (text : String) (bytes : Bytes) : Option Bytes :=
  if (utf8 text).isPrefixOf bytes then some (bytes.drop (utf8 text).length) else none

/-- A named text of an object, with what follows it. -/
def textField (name value : String) (rest : Bytes) : Bytes :=
  utf8 name ++ quoted (utf8 value) rest

/-- Read a named text of an object. -/
def readTextField (name : String) (bytes : Bytes) : Option (String × Bytes) := do
  let bytes ← stripText name bytes
  let bytes ← stripText "\"" bytes
  let (raw, rest) ← readQuoted bytes
  let value ← fromUtf8? raw
  return (value, rest)

/-- The JSON of a record. -/
def recordToJson (record : ConversationLogRecord) : Bytes :=
  textField "\x7b\"timestamp\":" record.timestamp <|
    textField ",\"author\":" record.author <|
      textField ",\"kind\":" record.kind <|
        textField ",\"body\":" record.body <|
          (if record.msgid = "" then id else textField ",\"msgid\":" record.msgid) <|
            (if record.onlyVisibleToYou then utf8 ",\"onlyVisibleToYou\":true" else []) ++ [125]

/-- Read the JSON of a record, in the form it is written in. -/
def recordFromJson (bytes : Bytes) : Option ConversationLogRecord := do
  let (timestamp, rest) ← readTextField "\x7b\"timestamp\":" bytes
  let (author, rest) ← readTextField ",\"author\":" rest
  let (kind, rest) ← readTextField ",\"kind\":" rest
  let (body, rest) ← readTextField ",\"body\":" rest
  let (msgid, rest) := (readTextField ",\"msgid\":" rest).getD ("", rest)
  let (onlyVisibleToYou, rest) :=
    match stripText ",\"onlyVisibleToYou\":true" rest with
    | some rest => (true, rest)
    | none => (false, rest)
  if rest = [125] then return { timestamp, author, kind, body, msgid, onlyVisibleToYou } else none

/-- Each byte is written as it is, behind a backslash, or in four hex digits. -/
theorem jsonByte_form (byte : UInt8) :
    (match jsonByte byte with
      | [single] => single == byte && byte != 34 && byte != 92 && decide (32 ≤ byte)
      | [92, letter] => decide (32 ≤ letter) && shortEscape letter == some byte
      | [92, 117, 48, 48, high, low] =>
          decide (32 ≤ high) && decide (32 ≤ low) && hexByteValue high low == some byte
      | _ => false) = true := by
  revert byte
  exact byte_forall (by decide +kernel)

/-- The three forms of a byte in a quoted text. -/
theorem jsonByte_cases (byte : UInt8) :
    jsonByte byte = [byte] ∧ byte ≠ 34 ∧ byte ≠ 92 ∧ 32 ≤ byte ∨
      (∃ letter, jsonByte byte = [92, letter] ∧ 32 ≤ letter ∧ shortEscape letter = some byte) ∨
      ∃ high low, jsonByte byte = [92, 117, 48, 48, high, low] ∧ 32 ≤ high ∧ 32 ≤ low ∧
        hexByteValue high low = some byte := by
  have form := jsonByte_form byte
  split at form
  · rename_i single shape
    simp only [Bool.and_eq_true, beq_iff_eq, bne_iff_ne, decide_eq_true_eq] at form
    obtain ⟨⟨⟨rfl, noQuote⟩, noEscape⟩, printable⟩ := form
    exact .inl ⟨shape, noQuote, noEscape, printable⟩
  · rename_i letter shape
    simp only [Bool.and_eq_true, beq_iff_eq, decide_eq_true_eq] at form
    exact .inr (.inl ⟨letter, shape, form.1, form.2⟩)
  · rename_i high low shape
    simp only [Bool.and_eq_true, beq_iff_eq, decide_eq_true_eq] at form
    exact .inr (.inr ⟨high, low, shape, form.1.1, form.1.2, form.2⟩)
  · cases form

/-- A quoted text is read back. -/
theorem readQuoted_quoted (bytes rest : Bytes) :
    readQuoted (bytes.flatMap jsonByte ++ 34 :: rest) = some (bytes, rest) := by
  induction bytes with
  | nil =>
      rw [List.flatMap_nil, List.nil_append, readQuoted.eq_def]
      rfl
  | cons byte more inductionHypothesis =>
      rw [List.flatMap_cons, List.append_assoc]
      generalize more.flatMap jsonByte ++ 34 :: rest = tail at inductionHypothesis
      rcases jsonByte_cases byte with ⟨shape, noQuote, noEscape, -⟩ | ⟨letter, shape, -, short⟩ |
        ⟨high, low, shape, -, -, reads⟩
      · rw [shape, List.singleton_append, readQuoted.eq_def]
        dsimp only
        rw [if_neg noQuote, if_pos noEscape, inductionHypothesis]
        rfl
      · rw [shape, readQuoted.eq_def]
        dsimp only [List.cons_append, List.nil_append]
        rw [if_neg (by decide), if_neg (by decide), short]
        dsimp only
        rw [inductionHypothesis]
        rfl
      · rw [shape, readQuoted.eq_def]
        dsimp only [List.cons_append, List.nil_append]
        rw [if_neg (by decide), if_neg (by decide), show shortEscape 117 = none by decide]
        dsimp only
        rw [if_pos rfl, reads]
        dsimp only
        rw [inductionHypothesis]
        rfl

/-- No control byte stands in a quoted text. -/
theorem jsonByte_printable {byte other : UInt8} (present : other ∈ jsonByte byte) : 32 ≤ other := by
  rcases jsonByte_cases byte with ⟨shape, -, -, printable⟩ | ⟨letter, shape, printable, -⟩ |
    ⟨high, low, shape, printable, printable', -⟩
  · rw [shape, List.mem_singleton] at present
    exact present ▸ printable
  · rw [shape] at present
    simp only [List.mem_cons, List.not_mem_nil, or_false] at present
    rcases present with rfl | rfl
    · decide
    · exact printable
  · rw [shape] at present
    simp only [List.mem_cons, List.not_mem_nil, or_false] at present
    rcases present with rfl | rfl | rfl | rfl | rfl | rfl
    any_goals decide
    · exact printable
    · exact printable'

theorem stripText_append (text : String) (rest : Bytes) :
    stripText text (utf8 text ++ rest) = some rest := by
  rw [stripText, if_pos (List.isPrefixOf_iff_prefix.mpr (List.prefix_append _ _)), List.drop_left]

/-- A named text is read back. -/
theorem readTextField_textField (name value : String) (rest : Bytes) :
    readTextField name (textField name value rest) = some (value, rest) := by
  have quote : quoted (utf8 value) rest =
      utf8 "\"" ++ ((utf8 value).flatMap jsonByte ++ 34 :: rest) := by
    rw [quoted]
    rfl
  rw [readTextField, textField, stripText_append, quote]
  simp only [Option.bind_eq_bind, Option.bind_some, stripText_append, readQuoted_quoted,
    fromUtf8?_utf8]
  rfl

/-- A record is read back from its JSON. -/
theorem recordFromJson_recordToJson (record : ConversationLogRecord) :
    recordFromJson (recordToJson record) = some record := by
  obtain ⟨timestamp, author, kind, body, msgid, onlyVisibleToYou⟩ := record
  have flag (rest : Bytes) (ends : rest = [125]) :
      stripText ",\"onlyVisibleToYou\":true" (utf8 ",\"onlyVisibleToYou\":true" ++ rest) =
        some [125] ∧ stripText ",\"onlyVisibleToYou\":true" [125] = none := by
    rw [ends, stripText_append]
    exact ⟨rfl, by decide⟩
  have unnamed (visible : Bool) : readTextField ",\"msgid\":"
      ((if visible then utf8 ",\"onlyVisibleToYou\":true" else []) ++ [125]) = none := by
    cases visible
    all_goals decide
  unfold recordFromJson recordToJson
  simp only [Option.bind_eq_bind, Option.bind_some, readTextField_textField]
  by_cases noMsgid : msgid = ""
  · subst noMsgid
    rw [if_pos rfl, id, unnamed, Option.getD_none]
    cases onlyVisibleToYou with
    | false =>
        dsimp only
        rw [if_neg Bool.false_ne_true, List.nil_append, (flag [125] rfl).2]
        rfl
    | true =>
        dsimp only
        rw [if_pos rfl, (flag [125] rfl).1]
        rfl
  · rw [if_neg noMsgid, readTextField_textField, Option.getD_some]
    cases onlyVisibleToYou with
    | false =>
        dsimp only
        rw [if_neg Bool.false_ne_true, List.nil_append, (flag [125] rfl).2]
        rfl
    | true =>
        dsimp only
        rw [if_pos rfl, (flag [125] rfl).1]
        rfl

theorem textField_append (name value : String) (front back : Bytes) :
    textField name value (front ++ back) = textField name value front ++ back := by
  rw [textField, textField, quoted, quoted, List.append_assoc, List.cons_append, List.append_assoc,
    List.cons_append]

/-- A field that is named on one line stands on one line. -/
theorem textField_line {name : String} (value : String) {rest : Bytes} (named : 10 ∉ utf8 name)
    (line : 10 ∉ rest) : 10 ∉ textField name value rest := by
  rw [textField, quoted, List.mem_append, List.mem_cons, List.mem_append, List.mem_cons]
  rintro (here | quote | escaped | quote | later)
  · exact named here
  · exact absurd quote (by decide)
  · obtain ⟨byte, -, present⟩ := List.mem_flatMap.mp escaped
    exact absurd (jsonByte_printable present) (by decide)
  · exact absurd quote (by decide)
  · exact line later

/-- The JSON of a record stands on one line. -/
theorem recordToJson_line (record : ConversationLogRecord) : 10 ∉ recordToJson record := by
  unfold recordToJson
  refine textField_line _ (by decide) (textField_line _ (by decide)
    (textField_line _ (by decide) (textField_line _ (by decide) ?_)))
  have visible :
      10 ∉ (if record.onlyVisibleToYou then utf8 ",\"onlyVisibleToYou\":true" else []) ++ [125] := by
    split
    all_goals decide
  split
  · exact visible
  · exact textField_line _ (by decide) visible

/-- The JSON of a record stands in braces. -/
theorem recordToJson_braces (record : ConversationLogRecord) :
    ∃ inside, recordToJson record = 123 :: (inside ++ [125]) := by
  have begins : utf8 "\x7b\"timestamp\":" = 123 :: utf8 "\"timestamp\":" := by decide
  unfold recordToJson
  split
  · rw [id, textField_append, textField_append, textField_append, textField_append, textField,
      begins]
    exact ⟨_, rfl⟩
  · rw [textField_append, textField_append, textField_append, textField_append, textField_append,
      textField, begins]
    exact ⟨_, rfl⟩

end Omairc.Storage
