import Omairc.Text.Strings

/-!
# The platform under the client

What the client takes from its libraries and its operating system: Unicode case
tables, calendar text, base64, the hash functions of SCRAM, and the redaction
policy of shown texts. The development is parametric in them. The only law it
relies on is that standard base64 writes its own alphabet.
-/

namespace Omairc

open Omairc.Text

/-- A clock reading, in nanoseconds since the epoch. -/
abbrev Instant := Int

/-- Bytes of the standard base64 alphabet, padding included. -/
def isBase64Byte (byte : UInt8) : Bool :=
  isAsciiAlphanumeric byte || byte == 43 || byte == 47 || byte == 61

/-- The services the client is built on. -/
class Platform where
  /-- Unicode lower casing of a text. -/
  toLowercase : String → String
  /-- Unicode upper casing of a text. -/
  toUppercase : String → String
  /-- The text of a UTC time under a calendar format. -/
  formatUtc : String → Instant → String
  /-- The text of a time in the local time zone under a calendar format. -/
  formatLocal : String → Instant → String
  /-- Read a time under a calendar format. -/
  parseFromStr : String → String → Option Instant
  /-- Read an RFC 3339 time. -/
  parseFromRfc3339 : String → Option Instant
  /-- Standard base64 with padding. -/
  base64Encode : Bytes → Bytes
  /-- The strict decoder of standard base64. -/
  base64Decode : Bytes → Option Bytes
  /-- The SHA-256 digest. -/
  sha256 : Bytes → Bytes
  /-- HMAC-SHA-256 of a message under a key. -/
  hmacSha256 : Bytes → Bytes → Bytes
  /-- PBKDF2 with HMAC-SHA-256: password, salt, iterations, and a key of 32 bytes. -/
  pbkdf2HmacSha256 : Bytes → Bytes → Nat → Bytes
  /-- Whether a text may be shown in a transcript, under the advertised channel types. -/
  allowsTranscript : String → String → Bool
  /-- The masked form of a line that carries a secret, under the advertised channel types. -/
  redactPreviewLine : String → String → Option String
  /-- Standard base64 writes only its alphabet. -/
  base64Encode_alphabet : ∀ raw, ∀ byte ∈ base64Encode raw, isBase64Byte byte = true

end Omairc
