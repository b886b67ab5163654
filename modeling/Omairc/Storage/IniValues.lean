import Omairc.Storage.IniKeys
import Omairc.Storage.IniLines

/-!
# Values of a settings file

A value is text, or items with commas between them. Control characters are written as escapes,
and a comma, a semicolon or an equals sign puts the text in quotes. Reading decodes the escapes
and splits at the commas outside quotes.
-/

namespace Omairc.Ini

open Omairc.Text

/-- One persisted value. `variant` is an encoded value other than a string: it reads as text and
is written verbatim, while a string that starts with an at sign is written with one more. -/
inductive IniValue
  | text (text : String)
  | variant (encoded : String)
  | list (items : List String)
  | invalid
  deriving DecidableEq

/-! ## Reading -/

/-- The code points of the single-letter escapes. -/
def escapeCode (byte : UInt8) : Option Nat :=
  match byte with
  | 97 => some 0x07
  | 98 => some 0x08
  | 102 => some 0x0C
  | 110 => some 0x0A
  | 114 => some 0x0D
  | 116 => some 0x09
  | 118 => some 0x0B
  | 34 => some 0x22
  | 63 => some 0x3F
  | 39 => some 0x27
  | 92 => some 0x5C
  | _ => none

/-- A blank, which is trimmed around an item that is not quoted. -/
def isBlank (byte : UInt8) : Bool := byte == 32 || byte == 9

/-- The bytes without the blanks at their end, as far as those stand behind the limit. -/
def chop (limit : Nat) (bytes : Bytes) : Bytes :=
  bytes.take limit ++ (bytes.drop limit).rdropWhile isBlank

/-- The bytes of a code point, or of U+FFFD when it encodes no character. -/
def codePoint (code : Nat) : Bytes :=
  String.utf8EncodeChar (if code.isValidChar then Char.ofNat code else replacement)

/-- Where the decoder stands. `skipSpaces`, `normal`, `hexEscape` and `octEscape` are its loops,
the limit of a normal run is where its blanks may be trimmed to, and the others stand inside an
escape: behind a backslash, behind `\\x`, and behind an escaped line break. -/
inductive ValueStep
  | skipSpaces
  | normal (limit : Nat)
  | escape
  | hexStart
  | hexEscape (value : Nat)
  | octEscape (value : Nat)
  | lineBreak (taken : UInt8)

/-- The decoder of a value. `Shown` is what the bytes of an item are kept as. -/
structure ValueScan (Shown : Type) where
  step : ValueStep := .skipSpaces
  buf : Bytes := []
  items : List Shown := []
  isList : Bool := false
  inQuotes : Bool := false
  currentQuoted : Bool := false

namespace ValueScan

variable {Shown : Type} (shown : Bytes → Shown)

/-- Push a code point and go on. -/
def push (scan : ValueScan Shown) (code : Nat) : ValueScan Shown :=
  { scan with
    buf := scan.buf ++ codePoint code
    step := .normal (scan.buf ++ codePoint code).length }

/-- Go on behind an escape that pushes nothing. -/
def resume (scan : ValueScan Shown) : ValueScan Shown :=
  { scan with step := .normal scan.buf.length }

/-- The bytes of the item as they stand. -/
def item (scan : ValueScan Shown) : Bytes :=
  match scan.step with
  | .normal limit => if scan.currentQuoted then scan.buf else chop limit scan.buf
  | .hexEscape value => scan.buf ++ codePoint value
  | .octEscape value => scan.buf ++ codePoint value
  | _ => scan.buf

/-- A byte of a normal run. -/
def readNormal (scan : ValueScan Shown) (limit : Nat) (byte : UInt8) : ValueScan Shown :=
  if byte = 92 then { scan with step := .escape }
  else if byte = 34 then
    { scan with
      currentQuoted := true
      inQuotes := !scan.inQuotes
      step := if scan.inQuotes then .skipSpaces else .normal limit }
  else if byte = 44 ∧ scan.inQuotes = false then
    let item := if scan.currentQuoted then scan.buf else chop limit scan.buf
    { scan with
      step := .skipSpaces
      items := (if scan.isList then scan.items else []) ++ [shown item]
      isList := true
      buf := []
      currentQuoted := false }
  else { scan with buf := scan.buf ++ [byte], step := .normal limit }

/-- A byte with which a normal run begins. -/
def readResumed (scan : ValueScan Shown) (byte : UInt8) : ValueScan Shown :=
  scan.readNormal shown scan.buf.length byte

/-- The next byte. -/
def read (scan : ValueScan Shown) (byte : UInt8) : ValueScan Shown :=
  match scan.step with
  | .skipSpaces =>
      if isBlank byte then scan else scan.readResumed shown byte
  | .normal limit => scan.readNormal shown limit byte
  | .escape =>
      match escapeCode byte with
      | some code => scan.push code
      | none =>
          if byte = 120 then { scan with step := .hexStart }
          else
            match octValue byte.toNat with
            | some value => { scan with step := .octEscape value }
            | none =>
                if isLineBreak byte then { scan with step := .lineBreak byte }
                else scan.resume
  | .hexStart =>
      match hexValue byte.toNat with
      | some value => { scan with step := .hexEscape value }
      | none => scan.readResumed shown byte
  | .hexEscape value =>
      match hexValue byte.toNat with
      | some digit => { scan with step := .hexEscape ((value * 16 + digit) % 2 ^ 32) }
      | none => (scan.push value).readResumed shown byte
  | .octEscape value =>
      match octValue byte.toNat with
      | some digit => { scan with step := .octEscape ((value * 8 + digit) % 2 ^ 32) }
      | none => (scan.push value).readResumed shown byte
  | .lineBreak taken =>
      if isLineBreak byte && byte != taken then scan.resume else scan.readResumed shown byte

/-- The decoder behind some bytes. -/
def run (scan : ValueScan Shown) (bytes : Bytes) : ValueScan Shown :=
  bytes.foldl (read shown) scan

@[simp] theorem run_nil (scan : ValueScan Shown) : scan.run shown [] = scan := rfl

@[simp] theorem run_cons (scan : ValueScan Shown) (byte : UInt8) (rest : Bytes) :
    scan.run shown (byte :: rest) = (scan.read shown byte).run shown rest := rfl

@[simp] theorem run_append (scan : ValueScan Shown) (front back : Bytes) :
    scan.run shown (front ++ back) = (scan.run shown front).run shown back :=
  List.foldl_append

end ValueScan

/-- A single text as it is meant: `@Invalid()`, a text behind two at signs, or an encoded
value. -/
def sentinel (text : String) : IniValue :=
  if text = "@Invalid()" then .invalid
  else
    match text.toList with
    | '@' :: '@' :: rest => .text (String.ofList ('@' :: rest))
    | '@' :: _ => .variant text
    | _ => .text text

/-- Decode one value. -/
def iniUnescapedStringList (value : Bytes) : IniValue :=
  let scan := ValueScan.run fromUtf8Lossy {} value
  let text := fromUtf8Lossy scan.item
  if scan.isList then .list (scan.items ++ [text]) else sentinel text

/-! ## Writing -/

/-- Whether a character is a hexadecimal digit. -/
def isHexDigit (character : Char) : Bool := (hexValue character.toNat).isSome

/-- The small hexadecimal digits of a code. -/
def hexLower (code : Nat) : List Char := Nat.toDigits 16 code

/-- One character as it is written, and whether a hexadecimal digit behind it would extend its
escape. `digits` says this of the character before it. -/
def escapedCharacter (digits : Bool) (character : Char) : List Char × Bool :=
  if digits && isHexDigit character then ('\\' :: 'x' :: hexLower character.toNat, true)
  else
    match character.toNat with
    | 0x00 => (['\\', '0'], true)
    | 0x07 => (['\\', 'a'], false)
    | 0x08 => (['\\', 'b'], false)
    | 0x0C => (['\\', 'f'], false)
    | 0x0A => (['\\', 'n'], false)
    | 0x0D => (['\\', 'r'], false)
    | 0x09 => (['\\', 't'], false)
    | 0x0B => (['\\', 'v'], false)
    | 0x22 => (['\\', '"'], false)
    | 0x5C => (['\\', '\\'], false)
    | code =>
        if code ≤ 0x1F then ('\\' :: 'x' :: hexLower code, true) else ([character], false)

/-- The characters of a text as they are written. -/
def escapedText (digits : Bool) : List Char → List Char
  | [] => []
  | character :: rest =>
      let (written, digits) := escapedCharacter digits character
      written ++ escapedText digits rest

theorem escapedText_cons (digits : Bool) (character : Char) (rest : List Char) :
    escapedText digits (character :: rest) = (escapedCharacter digits character).1 ++
      escapedText (escapedCharacter digits character).2 rest :=
  rfl

/-- Whether a text is written in quotes. -/
def needsQuotes (text : List Char) : Bool :=
  text.any (fun character => character == ';' || character == ',' || character == '=') ||
    (escapedText false text).head? == some ' ' || (escapedText false text).getLast? == some ' '

/-- A text as it is written. -/
def iniEscapedString (text : String) : String :=
  let written := escapedText false text.toList
  String.ofList (if needsQuotes text.toList then '"' :: written ++ ['"'] else written)

/-- A list as it is written. -/
def iniEscapedStringList (items : List String) : String :=
  if items = [] then "@Invalid()" else joinTexts ", " (items.map iniEscapedString)

/-- A value as it is written. A string that starts with an at sign gets one more. -/
def encodeValue : IniValue → String
  | .list items => iniEscapedStringList items
  | .invalid => "@Invalid()"
  | .variant encoded => iniEscapedString encoded
  | .text text =>
      if startsWithChar text '@' then iniEscapedString ("@" ++ text) else iniEscapedString text

end Omairc.Ini
