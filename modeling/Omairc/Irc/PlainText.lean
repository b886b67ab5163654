import Omairc.Text.Utf8

/-!
# Plain text

A message carries control codes: toggles of one character, and colors of some digits after
their code. The plain text is the message without them.
-/

namespace Omairc.Irc

open Omairc.Text

def bold : Char := '\x02'
def color : Char := '\x03'
def hexColor : Char := '\x04'
def reset : Char := '\x0f'
def monospace : Char := '\x11'
def reverse : Char := '\x16'
def italic : Char := '\x1d'
def strikethrough : Char := '\x1e'
def underline : Char := '\x1f'

/-- Whether an ASCII digit stands at an index. -/
def digitAt (chars : List Char) (index : Nat) : Bool := chars[index]?.any Char.isDigit

/-- An ASCII hex digit. -/
def isAsciiHexDigit (char : Char) : Bool :=
  char.isDigit || ('a' ≤ char && char ≤ 'f') || ('A' ≤ char && char ≤ 'F')

/-- Whether six hex digits stand from an index on. -/
def sixHexAt (chars : List Char) (start : Nat) : Bool :=
  start + 6 ≤ chars.length && ((chars.drop start).take 6).all isAsciiHexDigit

/-- The last index of the color code at `index`: up to two digits, and up to two more behind a
comma. -/
def consumeMircColor (chars : List Char) (index : Nat) : Nat :=
  if !digitAt chars (index + 1) then index
  else
    let first := if digitAt chars (index + 2) then index + 3 else index + 2
    let second :=
      if chars[first]? = some ',' && digitAt chars (first + 1) then
        if digitAt chars (first + 2) then first + 3 else first + 2
      else first
    second - 1

/-- The last index of the hex color code at `index`: six digits, and six more behind a comma. -/
def consumeHexColor (chars : List Char) (index : Nat) : Nat :=
  if !sixHexAt chars (index + 1) then index
  else
    let first := index + 7
    let second :=
      if chars[first]? = some ',' && sixHexAt chars (first + 1) then first + 7 else first
    second - 1

/-- A color code ends where it starts or later. -/
theorem le_consumeMircColor (chars : List Char) (index : Nat) :
    index ≤ consumeMircColor chars index := by
  unfold consumeMircColor
  dsimp only
  split_ifs
  all_goals omega

/-- A hex color code ends where it starts or later. -/
theorem le_consumeHexColor (chars : List Char) (index : Nat) :
    index ≤ consumeHexColor chars index := by
  unfold consumeHexColor
  dsimp only
  split_ifs
  all_goals omega

/-- The characters from an index on without color codes. -/
def stripIrcColorsFrom (chars : List Char) (index : Nat) : List Char :=
  if inside : index < chars.length then
    if chars[index] = color then stripIrcColorsFrom chars (consumeMircColor chars index + 1)
    else if chars[index] = hexColor then
      stripIrcColorsFrom chars (consumeHexColor chars index + 1)
    else chars[index] :: stripIrcColorsFrom chars (index + 1)
  else []
termination_by chars.length - index
decreasing_by
  · have := le_consumeMircColor chars index
    omega
  · have := le_consumeHexColor chars index
    omega
  · omega

/-- A text without color codes. -/
def stripIrcColors (text : String) : String := String.ofList (stripIrcColorsFrom text.toList 0)

/-- A code of one character that changes the format. -/
def isFormatCode (code : Char) : Bool :=
  code == bold || code == reset || code == monospace || code == reverse || code == italic ||
    code == strikethrough || code == underline

/-- The text a reader sees: colors and every formatting code removed. -/
def plainIrcText (text : String) : String :=
  String.ofList ((stripIrcColors text).toList.filter fun code => !isFormatCode code)

end Omairc.Irc
