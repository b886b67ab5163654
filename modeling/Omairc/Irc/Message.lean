import Omairc.Irc.WireText

/-!
# Frame limits, the error taxonomy and the parsed line

Wire fields are bytes, because the wire carries any octets; the command and the
tag names are validated ASCII and are texts.
-/

namespace Omairc.Irc

open Omairc.Text

/-- Outbound line ceiling, CRLF included. -/
def maxClassicFrameBytes : Nat := 512

/-- Receive ceiling of the part of a line after its tags, CRLF included. -/
def maxInboundClassicFrameBytes : Nat := 4096

/-- Ceiling of a tag section, without the leading `@` and the trailing space. -/
def maxTagSectionBytes : Nat := 8191

/-- Parameters one line may carry. The last one swallows the rest of the line. -/
def maxParameters : Nat := 15

/-- Why a line or a frame was rejected. -/
inductive IrcError
  | emptyInput
  | invalidCharacter
  | invalidTags
  | invalidPrefix
  | invalidCommand
  | tooManyBytes
  | invalidField
  deriving DecidableEq

/-- The text a rejected line is reported with. -/
def IrcError.name : IrcError → String
  | .emptyInput => "empty input"
  | .invalidCharacter => "invalid character"
  | .invalidTags => "invalid tags"
  | .invalidPrefix => "invalid prefix"
  | .invalidCommand => "invalid command"
  | .tooManyBytes => "too many bytes"
  | .invalidField => "invalid field"

/-- One message tag. A valueless tag has `value = none`. -/
structure IrcTag where
  name : String
  value : Option Bytes
  deriving DecidableEq

/-- A parsed message source. `raw` holds the whole source; the other fields are
filled only when present. -/
structure IrcPrefix where
  raw : Bytes
  nick : Bytes
  user : Bytes
  host : Bytes
  deriving DecidableEq

/-- Whether the source names a nick and a user. A bare server name does not. -/
def IrcPrefix.isUser (source : IrcPrefix) : Bool := !source.nick.isEmpty && !source.user.isEmpty

/-- A parsed line. `msgPrefix` is `none` when the line carried no source. -/
structure IrcMessage where
  tags : List IrcTag := []
  msgPrefix : Option IrcPrefix := none
  command : String := ""
  params : List Bytes := []
  deriving DecidableEq

namespace IrcMessage

/-- The parameter at `index`, as raw bytes. -/
def param (message : IrcMessage) (index : Nat) : Option Bytes := message.params[index]?

/-- The parameter at `index` as display text, or empty past the end. -/
def textParam (message : IrcMessage) (index : Nat) : String :=
  ((message.params[index]?).map wireText).getD ""

/-- The first parameter equal to `value` under ASCII case folding. -/
def paramIndex (message : IrcMessage) (value : String) : Option Nat :=
  message.params.findIdx? fun raw => eqIgnoreAsciiCase (wireText raw) value

/-- The value of the first tag named `name` that carries one, as display text. -/
def tagText (message : IrcMessage) (name : String) : Option String :=
  ((message.tags.filter (·.name = name)).findSome? (·.value)).map wireText

/-- Whether a tag named `name` is present, with or without a value. -/
def hasTag (message : IrcMessage) (name : String) : Bool := message.tags.any (·.name = name)

/-- The message id tag, or empty. -/
def msgid (message : IrcMessage) : String := (message.tagText "msgid").getD ""

end IrcMessage

end Omairc.Irc
