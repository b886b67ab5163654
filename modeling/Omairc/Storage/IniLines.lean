import Omairc.Text.Bytes

/-!
# Lines of a settings file

A line is what stands between line breaks and comments. A line break or a semicolon inside
quotes or behind a backslash does not end it, and the first equals sign outside quotes divides
it. A comment begins a line with a semicolon or a number sign.
-/

namespace Omairc.Ini

open Omairc.Text

/-- One logical line, and where its first equals sign outside quotes stands. The position counts
from the start of the line. -/
structure IniLine where
  text : Bytes := []
  equals : Option Nat := none

/-- White space between lines. -/
def iniSpace (byte : UInt8) : Bool := byte == 32 || byte == 9 || byte == 10 || byte == 13

/-- The two line breaks. -/
def isLineBreak (byte : UInt8) : Bool := byte == 10 || byte == 13

/-- Which loop of the scanner reads the next byte: the white space before a line, a comment, the
line itself, the byte behind a backslash, or the byte behind a line break that a backslash
took. -/
inductive LineMode
  | lead
  | comment
  | body (inQuotes : Bool)
  | escaped (inQuotes : Bool)
  | broken (inQuotes : Bool) (taken : UInt8)

/-- A scan of the bytes: the mode and the line so far. -/
structure LineScan where
  mode : LineMode := .lead
  line : IniLine := {}

namespace LineScan

/-- Take a byte into the line. -/
def take (scan : LineScan) (byte : UInt8) (mode : LineMode) : LineScan :=
  ⟨mode, { scan.line with text := scan.line.text ++ [byte] }⟩

/-- A byte of the line itself. The line that ends with it comes first. -/
def readBody (scan : LineScan) (inQuotes : Bool) (byte : UInt8) : Option IniLine × LineScan :=
  if byte = 61 then
    let equals :=
      if !inQuotes && scan.line.equals.isNone then some scan.line.text.length
      else scan.line.equals
    (none, { scan.take byte (.body inQuotes) with
      line := ⟨scan.line.text ++ [byte], equals⟩ })
  else if isLineBreak byte then
    if inQuotes then (none, scan.take byte (.body inQuotes)) else (some scan.line, {})
  else if byte = 92 then (none, scan.take byte (.escaped inQuotes))
  else if byte = 34 then (none, scan.take byte (.body !inQuotes))
  else if byte = 59 then
    -- A semicolon in the line ends it, and the next line begins with the comment.
    if inQuotes then (none, scan.take byte (.body inQuotes))
    else (some scan.line, { mode := .comment })
  else (none, scan.take byte (.body inQuotes))

/-- The next byte. -/
def read (scan : LineScan) (byte : UInt8) : Option IniLine × LineScan :=
  match scan.mode with
  | .lead =>
      if iniSpace byte then (none, scan)
      else if byte = 35 ∨ byte = 59 then (none, { scan with mode := .comment })
      else scan.readBody false byte
  | .comment => (none, if isLineBreak byte then { scan with mode := .lead } else scan)
  | .body inQuotes => scan.readBody inQuotes byte
  | .escaped inQuotes =>
      (none, scan.take byte
        (if isLineBreak byte then .broken inQuotes byte else .body inQuotes))
  | .broken inQuotes taken =>
      if isLineBreak byte && byte != taken then (none, scan.take byte (.body inQuotes))
      else scan.readBody inQuotes byte

/-- The lines of the bytes. What stands at the end is a line unless it is empty. -/
def lines (scan : LineScan) : Bytes → List IniLine
  | [] => if scan.line.text = [] then [] else [scan.line]
  | byte :: rest =>
      match scan.read byte with
      | (none, scan) => scan.lines rest
      | (some line, scan) => line :: scan.lines rest

/-- Bytes that are read without an end of line. -/
def Reads (scan : LineScan) (bytes : Bytes) (after : LineScan) : Prop :=
  ∀ rest, scan.lines (bytes ++ rest) = after.lines rest

namespace Reads

variable {scan middle after : LineScan} {front back : Bytes} {byte : UInt8}

theorem nil (scan : LineScan) : scan.Reads [] scan := fun _ => rfl

theorem append (first : scan.Reads front middle) (second : middle.Reads back after) :
    scan.Reads (front ++ back) after := by
  intro rest
  rw [List.append_assoc, first, second]

theorem single (read : scan.read byte = (none, after)) : scan.Reads [byte] after := by
  intro rest
  rw [List.singleton_append, lines, read]

theorem cons (read : scan.read byte = (none, middle)) (others : middle.Reads back after) :
    scan.Reads (byte :: back) after :=
  (single read).append others

end Reads

end LineScan

/-- The lines of a file, without its byte order mark. -/
def iniLines (data : Bytes) : List IniLine := LineScan.lines {} data

/-- The bytes behind a byte order mark. -/
def stripBom : Bytes → Bytes
  | 0xEF :: 0xBB :: 0xBF :: rest => rest
  | data => data

/-- Whether a line is malformed: a header that does not close, or a line with no equals sign that
is no comment. -/
def IniLine.isMalformed (line : IniLine) : Bool :=
  if line.text.head? = some 91 then !line.text.contains 93
  else line.equals.isNone && line.text.head? != some 59

/-- Whether a file is malformed. -/
def iniBytesAreMalformed (data : Bytes) : Bool :=
  (iniLines (stripBom data)).any IniLine.isMalformed

/-! ## Reading what is written -/

/-- A byte that stands for itself on a line. -/
def isPlainByte (byte : UInt8) : Bool :=
  !isLineBreak byte && byte != 34 && byte != 59 && byte != 61 && byte != 92

theorem plain_cases {byte : UInt8} (plain : isPlainByte byte = true) :
    isLineBreak byte = false ∧ byte ≠ 34 ∧ byte ≠ 59 ∧ byte ≠ 61 ∧ byte ≠ 92 := by
  simp only [isPlainByte, Bool.and_eq_true, Bool.not_eq_true', bne_iff_ne, ne_eq] at plain
  obtain ⟨⟨⟨⟨breaks, quote⟩, semicolon⟩, equals⟩, backslash⟩ := plain
  exact ⟨breaks, quote, semicolon, equals, backslash⟩

namespace LineScan

variable {bytes : Bytes} {byte : UInt8} (inQuotes : Bool) (text : Bytes) (equals : Option Nat)

theorem readBody_plain (plain : isPlainByte byte = true) (scan : LineScan) (inQuotes : Bool) :
    scan.readBody inQuotes byte = (none, scan.take byte (.body inQuotes)) := by
  obtain ⟨breaks, quote, semicolon, equals, backslash⟩ := plain_cases plain
  rw [readBody, if_neg equals, breaks, if_neg Bool.false_ne_true, if_neg backslash, if_neg quote,
    if_neg semicolon]

/-- Plain bytes are taken into the line. -/
theorem reads_plain (plain : ∀ byte ∈ bytes, isPlainByte byte = true) :
    Reads ⟨.body inQuotes, ⟨text, equals⟩⟩ bytes ⟨.body inQuotes, ⟨text ++ bytes, equals⟩⟩ := by
  induction bytes generalizing text with
  | nil =>
      rw [List.append_nil]
      exact .nil _
  | cons byte rest inductionHypothesis =>
      have read := readBody_plain (plain byte List.mem_cons_self)
        ⟨.body inQuotes, ⟨text, equals⟩⟩ inQuotes
      have others := inductionHypothesis (text ++ [byte])
        fun other there => plain other (List.mem_cons_of_mem _ there)
      rw [List.append_assoc, List.singleton_append] at others
      exact .cons read others

/-- A backslash takes the byte behind it. -/
theorem reads_escape (taken : isLineBreak byte = false) :
    Reads ⟨.body inQuotes, ⟨text, equals⟩⟩ [92, byte]
      ⟨.body inQuotes, ⟨text ++ [92, byte], equals⟩⟩ := by
  have after : LineScan.read ⟨.escaped inQuotes, ⟨text ++ [92], equals⟩⟩ byte =
      (none, ⟨.body inQuotes, ⟨text ++ [92, byte], equals⟩⟩) := by
    show (none, LineScan.take _ byte (if isLineBreak byte then _ else _)) = _
    rw [taken, if_neg Bool.false_ne_true, take, List.append_assoc]
    rfl
  exact .cons rfl (.single after)

/-- A quote turns quoting on or off. -/
theorem reads_quote :
    Reads ⟨.body inQuotes, ⟨text, equals⟩⟩ [34]
      ⟨.body !inQuotes, ⟨text ++ [34], equals⟩⟩ :=
  .single rfl

/-- A semicolon in quotes is taken into the line. -/
theorem reads_semicolon :
    Reads ⟨.body true, ⟨text, equals⟩⟩ [59] ⟨.body true, ⟨text ++ [59], equals⟩⟩ :=
  .single rfl

/-- The first equals sign divides the line. -/
theorem reads_equals : Reads ⟨.body false, ⟨text, none⟩⟩ [61]
    ⟨.body false, ⟨text ++ [61], some text.length⟩⟩ :=
  .single rfl

/-- An equals sign in quotes is taken into the line. -/
theorem reads_quoted_equals :
    Reads ⟨.body true, ⟨text, equals⟩⟩ [61] ⟨.body true, ⟨text ++ [61], equals⟩⟩ :=
  .single rfl

/-- A line break ends the line. -/
theorem lines_break (scan : LineScan) (rest : Bytes) (outside : scan.mode = .body false) :
    scan.lines (10 :: rest) = scan.line :: lines {} rest := by
  rw [lines, read, outside]
  rfl

/-- A line break before a line is skipped. -/
theorem lines_blank (rest : Bytes) : lines {} (10 :: rest) = lines {} rest := rfl

/-- The first byte of a line, unless it is white space or begins a comment. -/
theorem lines_lead (rest : Bytes) (space : iniSpace byte = false) (number : byte ≠ 35)
    (semicolon : byte ≠ 59) :
    lines {} (byte :: rest) = lines ⟨.body false, {}⟩ (byte :: rest) := by
  have same : LineScan.read {} byte = LineScan.read ⟨.body false, {}⟩ byte := by
    show (if iniSpace byte then _ else if byte = 35 ∨ byte = 59 then _ else _) = _
    rw [space, if_neg Bool.false_ne_true, if_neg (not_or.mpr ⟨number, semicolon⟩)]
    rfl
  rw [lines, lines, same]

end LineScan

end Omairc.Ini
