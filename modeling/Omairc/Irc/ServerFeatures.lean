import Omairc.Irc.Message
import Omairc.Text.Strings

/-!
# Case mapping and advertised server features

The ISUPPORT values that the session acts on: the case mapping of identifiers, the
channel types and the line length. The remaining tokens change nothing here.
-/

namespace Omairc.Irc

open Omairc.Text

/-- The rule a case mapping applies. -/
inductive IrcCaseMapping
  | rfc1459
  | ascii
  | rfc1459Strict
  deriving DecidableEq

namespace IrcCaseMapping

/-- Resolve an advertised CASEMAPPING value. -/
def fromName (name : String) : Option IrcCaseMapping :=
  match asciiLowercase name with
  | "rfc1459" => some .rfc1459
  | "ascii" => some .ascii
  | "rfc1459-strict" | "strict-rfc1459" => some .rfc1459Strict
  | _ => none

/-- Fold one character to its comparison form. -/
def normalizedCharacter (mapping : IrcCaseMapping) (character : Char) : Char :=
  if character.isUpper then character.toLower
  else if mapping = .ascii then character
  else match character with
    | '[' => '{'
    | ']' => '}'
    | '\\' => '|'
    | '^' => if mapping = .rfc1459 then '~' else '^'
    | other => other

/-- Fold an identifier to its comparison form. -/
def normalize (mapping : IrcCaseMapping) (identifier : String) : String :=
  String.ofList (identifier.toList.map mapping.normalizedCharacter)

/-- Whether two identifiers are equal under a mapping. -/
def equals (mapping : IrcCaseMapping) (left right : String) : Bool :=
  mapping.normalize left == mapping.normalize right

end IrcCaseMapping

/-- The advertised features the session reads. -/
structure IrcServerFeatures where
  caseMapping : IrcCaseMapping := .rfc1459
  caseMappingKnown : Bool := false
  channelTypes : String := "#&"
  lineLength : Nat := maxClassicFrameBytes

/-- A decimal above zero, digits only, that fits the platform's size type. -/
def positiveDecimal (value : String) : Option Nat :=
  (parseDigits value.toList).filter fun length => decide (0 < length ∧ length < 2 ^ 64)

namespace IrcServerFeatures

/-- Apply one ISUPPORT token, or a `-NAME` removal form. -/
def applyToken (features : IrcServerFeatures) (token : String) : IrcServerFeatures :=
  match stripLead "-" token with
  | some removed =>
      if ((splitTextOnce '=' removed).map Prod.fst).getD removed = "LINELEN" then
        { features with lineLength := maxClassicFrameBytes }
      else features
  | none =>
      let (name, value) := (splitTextOnce '=' token).getD (token, "")
      match name with
      | "CASEMAPPING" =>
          match IrcCaseMapping.fromName value with
          | some mapping => { features with caseMapping := mapping, caseMappingKnown := true }
          | none => features
      | "CHANTYPES" => { features with channelTypes := value }
      | "LINELEN" =>
          match positiveDecimal value with
          | some length => { features with lineLength := length }
          | none => features
      | _ => features

/-- Record that the case mapping will not change silently any more. -/
def markCaseMappingKnown (features : IrcServerFeatures) : IrcServerFeatures :=
  { features with caseMappingKnown := true }

/-- Whether a target starts with an advertised channel type. -/
def isChannel (features : IrcServerFeatures) (target : String) : Bool :=
  match utf8 target with
  | [] => false
  | first :: _ => (utf8 features.channelTypes).contains first

end IrcServerFeatures

end Omairc.Irc
