import Omairc.Session.System

/-!
# A reference platform

A computable platform for running the session on fixed inputs: ASCII case tables,
standard base64, and no calendar. Its digests are not those of SHA-256; the runs of
this development never reach one.
-/

namespace Omairc.Session

open Omairc.Text Omairc.Irc

/-- The standard base64 alphabet. -/
def base64Alphabet : Bytes :=
  utf8 "ABCDEFGHIJKLMNOPQRSTUVWXYZabcdefghijklmnopqrstuvwxyz0123456789+/"

/-- The digit of a six-bit value. -/
def base64Digit (value : Nat) : UInt8 := (base64Alphabet[value]?).getD 47

/-- A digit is of the alphabet. -/
theorem isBase64Byte_base64Digit (value : Nat) : isBase64Byte (base64Digit value) = true := by
  have letters : base64Alphabet.all isBase64Byte = true := by decide
  unfold base64Digit
  cases found : base64Alphabet[value]? with
  | none => decide
  | some byte => exact List.all_eq_true.mp letters byte (List.mem_of_getElem? found)

/-- Standard base64 with padding. -/
def encodeBase64 : Bytes → Bytes
  | [] => []
  | [first] => [base64Digit (first.toNat / 4), base64Digit (first.toNat % 4 * 16), 61, 61]
  | [first, second] =>
      [base64Digit (first.toNat / 4), base64Digit (first.toNat % 4 * 16 + second.toNat / 16),
        base64Digit (second.toNat % 16 * 4), 61]
  | first :: second :: third :: rest =>
      base64Digit (first.toNat / 4) :: base64Digit (first.toNat % 4 * 16 + second.toNat / 16) ::
        base64Digit (second.toNat % 16 * 4 + third.toNat / 64) ::
        base64Digit (third.toNat % 64) :: encodeBase64 rest

/-- Base64 text is written in its alphabet. -/
theorem encodeBase64_alphabet (raw : Bytes) :
    ∀ byte ∈ encodeBase64 raw, isBase64Byte byte = true := by
  have padding : isBase64Byte 61 = true := by decide
  fun_induction encodeBase64 raw with
  | case1 => simp
  | case2 first => simp [isBase64Byte_base64Digit, padding]
  | case3 first second => simp [isBase64Byte_base64Digit, padding]
  | case4 first second third rest inductionHypothesis =>
      simpa [isBase64Byte_base64Digit] using inductionHypothesis

/-- The value of a base64 digit. -/
def base64Value (digit : UInt8) : Option Nat := base64Alphabet.findIdx? (· == digit)

/-- The bytes of base64 text, not yet checked to be canonical. -/
def decodeGroups : Bytes → Option Bytes
  | [] => some []
  | [first, second, 61, 61] => do
      return [UInt8.ofNat ((← base64Value first) * 4 + (← base64Value second) / 16)]
  | [first, second, third, 61] => do
      let middle ← base64Value second
      return [UInt8.ofNat ((← base64Value first) * 4 + middle / 16),
        UInt8.ofNat (middle % 16 * 16 + (← base64Value third) / 4)]
  | first :: second :: third :: fourth :: rest => do
      let middle ← base64Value second
      let later ← base64Value third
      let tail ← decodeGroups rest
      return UInt8.ofNat ((← base64Value first) * 4 + middle / 16) ::
        UInt8.ofNat (middle % 16 * 16 + later / 4) ::
        UInt8.ofNat (later % 4 * 64 + (← base64Value fourth)) :: tail
  | _ => none

/-- The strict decoder: only what the encoder writes is read. -/
def decodeBase64Strict (text : Bytes) : Option Bytes :=
  (decodeGroups text).filter fun raw => encodeBase64 raw = text

/-- The reference platform. -/
@[reducible] def reference : Platform where
  toLowercase text := String.ofList (text.toList.map Char.toLower)
  toUppercase text := String.ofList (text.toList.map Char.toUpper)
  formatUtc _ _ := ""
  formatLocal _ _ := ""
  parseFromStr _ _ := none
  parseFromRfc3339 _ := none
  base64Encode := encodeBase64
  base64Decode := decodeBase64Strict
  sha256 message := message
  hmacSha256 key message := key ++ message
  pbkdf2HmacSha256 password salt _ := password ++ salt
  allowsTranscript _ _ := true
  redactPreviewLine _ _ := none
  base64Encode_alphabet := encodeBase64_alphabet

example : encodeBase64 (utf8 "omairc") = utf8 "b21haXJj" ∧
    decodeBase64Strict (utf8 "b21haXI=") = some (utf8 "omair") := by decide

/-! ## Runs on fixed inputs -/

/-- A checked result of a run is a state that passes the check. -/
theorem exists_of_any {State : Type} {result : Option State} {check : State → Bool}
    (passed : result.any check = true) : ∃ state, result = some state ∧ check state = true := by
  cases result with
  | none => cases passed
  | some state => exact ⟨state, rfl, passed⟩

/-- A profile for a plaintext server, without credentials. -/
def plaintextProfile : SessionConfig :=
  { SessionConfig.withDefaults "net" "irc.example" "nick" with tlsEnabled := false }

/-- Actions under readings that never change. -/
def underOneClock (actions : List Action) : List (Readings × Action) :=
  actions.map fun action => ({}, action)

/-- Start, connect and write the first line. -/
def connectActions : List Action := [.start, .perform, .connected, .perform]

/-- One read of some lines, and their handling in order. -/
def readActions (lines : List String) : List Action :=
  .bytesReceived (lines.flatMap fun line => utf8 line ++ crlf) ::
    List.replicate lines.length .handleLine

/-- Perform a number of transport calls. -/
def performActions (count : Nat) : List Action := List.replicate count .perform

end Omairc.Session
