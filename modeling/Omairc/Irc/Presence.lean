import Omairc.Irc.Capability
import Omairc.Irc.CommandBuilder
import Omairc.Platform

/-!
# Metadata and read-marker vocabulary

The metadata keys and limits of `draft/metadata-2`, the value clamp, and the verbs
and times of read markers.
-/

namespace Omairc.Irc

open Omairc.Text

/-- The metadata keys the client handles, in subscription order. -/
def subscribedKeys : List String :=
  ["status", "avatar", "bot", "display-name", "pronouns", "homepage", "color"]

/-- The client's ceiling of a metadata value, in bytes. -/
def maximumValueBytes : Nat := 512

/-- The advertised limits of `draft/metadata-2`. -/
structure MetadataCapability where
  maxSubs : Option Nat := none
  maxValueBytes : Option Nat := none

/-- The keys to subscribe to under the server's limit. -/
def subscriptionKeys : Option Nat → List String
  | none => subscribedKeys
  | some limit => subscribedKeys.take limit

/-- The canonical spelling of a known metadata key. -/
def canonicalKey (key : String) : Option String :=
  subscribedKeys.find? fun known => eqIgnoreAsciiCase known key

/-- The UTF-16 code units of a character. -/
def utf16Units (character : Char) : List Nat :=
  let point := character.toNat
  if point < 0x10000 then [point]
  else [0xD800 + (point - 0x10000) / 0x400, 0xDC00 + (point - 0x10000) % 0x400]

/-- Decode UTF-16 code units, with U+FFFD for a lone surrogate. -/
def fromUtf16Lossy : List Nat → List Char
  | [] => []
  | [unit] => [if 0xD800 ≤ unit ∧ unit < 0xE000 then Char.ofNat 0xFFFD else Char.ofNat unit]
  | unit :: next :: rest =>
      if 0xD800 ≤ unit ∧ unit < 0xDC00 ∧ 0xDC00 ≤ next ∧ next < 0xE000 then
        Char.ofNat (0x10000 + (unit - 0xD800) * 0x400 + (next - 0xDC00)) :: fromUtf16Lossy rest
      else if 0xD800 ≤ unit ∧ unit < 0xE000 then
        Char.ofNat 0xFFFD :: fromUtf16Lossy (next :: rest)
      else Char.ofNat unit :: fromUtf16Lossy (next :: rest)

/-- The longest cut of at most `stop` units whose text fits `maxBytes`. -/
def clampedUnits (units : List Nat) (maxBytes : Nat) : Nat → String
  | 0 => ""
  | stop + 1 =>
      let text := String.ofList (fromUtf16Lossy (units.take (stop + 1)))
      if byteLength text ≤ maxBytes then text else clampedUnits units maxBytes stop

/-- A value cut from its end, in UTF-16 units, until its bytes fit. -/
def clampedTo (value : String) (maxBytes : Nat) : String :=
  if maxBytes = 0 then ""
  else
    let units := value.toList.flatMap utf16Units
    clampedUnits units maxBytes units.length

/-- The value ceiling: the smaller of the server's limit and the client's. -/
def effectiveMaxValueBytes : Option Nat → Nat
  | some limit => if limit < maximumValueBytes then limit else maximumValueBytes
  | none => maximumValueBytes

/-- A non-negative decimal that fits 64 bits, white space around it allowed. -/
def parseNonNegative (raw : String) : Option Nat :=
  if raw = "" then none
  else ((parseInt64 (trim raw)).filter fun value => decide (0 ≤ value)).map Int.toNat

/-- The two spellings of the read-marker capability. -/
inductive ReadMarkerToken
  | draftReadMarker
  | sojuRead

/-- The token's spelling on the wire. -/
def ReadMarkerToken.text : ReadMarkerToken → String
  | .draftReadMarker => "draft/read-marker"
  | .sojuRead => "soju.im/read"

/-- The read-marker verb of the enabled token, or empty. -/
def readMarkerCommand : Option ReadMarkerToken → String
  | some .draftReadMarker => "MARKREAD"
  | some .sojuRead => "READ"
  | none => ""

/-- A time cut to whole milliseconds. -/
def readMarkerTimeMillis (time : Instant) : Instant := time / 1000000 * 1000000

/-- Whether a time is strictly newer at millisecond precision. -/
def readMarkerTimeAfter (left right : Instant) : Bool :=
  readMarkerTimeMillis left > readMarkerTimeMillis right

variable [Platform]

/-- The limits in the value of one `draft/metadata-2` token; the first valid one counts. -/
def metadataLimit (current : MetadataCapability) (part : String) : MetadataCapability :=
  if part = "" then current
  else
    let key := Platform.toLowercase (tokenKey part)
    match parseNonNegative (tokenValue part) with
    | none => current
    | some value =>
        if key = "max-subs" && current.maxSubs.isNone then { current with maxSubs := some value }
        else if key = "max-value-bytes" && current.maxValueBytes.isNone then
          { current with maxValueBytes := some value }
        else current

/-- Read the last `draft/metadata-2` token of a CAP line. -/
def parseMetadataCapability (tokens : List String) : Option MetadataCapability :=
  tokens.foldl (fun result token =>
    if eqIgnoreAsciiCase (tokenKey token) "draft/metadata-2" then
      some ((splitText ',' (tokenValue token)).foldl metadataLimit {})
    else result) none

/-- The layout of a `timestamp=` value. -/
def millisecondTimeFormat : String := "%Y-%m-%dT%H:%M:%S%.3fZ"

/-- The text of a read-marker time. -/
def formatReadMarkerTime (time : Instant) : String :=
  Platform.formatUtc millisecondTimeFormat (readMarkerTimeMillis time)

/-- Read a read-marker time. Only a trailing `Z` is accepted. -/
def parseReadMarkerTime (value : String) : Option Instant :=
  let value := trim value
  if value = "" || value.toList.getLast? ≠ some 'Z' then none
  else (Platform.parseFromRfc3339 value).map readMarkerTimeMillis

/-- Read the trailing parameter of a read-marker line. `some none` is the sentinel `*`. -/
def parseReadMarkerParameter (parameter : String) : Option (Option Instant) :=
  let parameter := trim parameter
  if parameter = "*" then some none
  else (stripLead "timestamp=" parameter).bind fun value => (parseReadMarkerTime value).map some

/-- Read an ISO time with or without milliseconds. -/
def parseQtIsoTime (raw : String) : Option Instant :=
  (Platform.parseFromStr "%Y-%m-%dT%H:%M:%S%.3f%#z" raw).or
    (Platform.parseFromStr "%Y-%m-%dT%H:%M:%S%#z" raw)

/-- The IRCv3 `time` tag of a message. -/
def serverTimeOf (message : IrcMessage) : Option Instant :=
  (message.tagText "time").bind fun raw => if raw = "" then none else parseQtIsoTime raw

/-- The time of a CHATHISTORY TARGETS row, with or without `timestamp=`. -/
def parseHistoryTargetTime (raw : String) : Option Instant :=
  let raw := (stripLead "timestamp=" raw).getD raw
  if raw = "" then none else parseQtIsoTime raw

end Omairc.Irc
