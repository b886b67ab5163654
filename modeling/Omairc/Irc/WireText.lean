import Omairc.Text.Bytes

/-!
# Wire bytes as display text

Valid UTF-8 passes through; anything else is read as Latin-1, one scalar per byte.
-/

namespace Omairc.Irc

open Omairc.Text

/-- The Unicode scalar of one Latin-1 byte. -/
def latin1 (byte : UInt8) : Char := Char.ofNat byte.toNat

/-- Raw wire bytes as display text. -/
def wireText (raw : Bytes) : String :=
  match fromUtf8? raw with
  | some valid => valid
  | none => String.ofList (raw.map latin1)

/-- Whether a text holds a period. -/
def containsDot (text : String) : Bool := text.toList.contains '.'

/-- ASCII case-insensitive equality of two texts, byte by byte. -/
def eqIgnoreAsciiCase (left right : String) : Bool :=
  (utf8 left).map toAsciiLowercase == (utf8 right).map toAsciiLowercase

end Omairc.Irc
