import Omairc.Irc.Capability
import Omairc.Platform

/-!
# SCRAM-SHA-256

The SCRAM client machine, the reassembly of challenges, and the exchange that ties
them to the AUTHENTICATE dialogue. The hash functions are those of the platform; a
wiped secret is the empty text.
-/

namespace Omairc.Session

open Omairc.Text Omairc.Irc

/-- The longest AUTHENTICATE payload of one frame. -/
def saslAuthenticateChunk : Nat := 400

/-- The largest encoded challenge the session accepts. -/
def incomingEncodedLimit : Nat := 4096

/-- Smallest iteration count a server may ask for. -/
def minIterations : Int := 4096

/-- Largest iteration count a server may ask for. -/
def maxIterations : Int := 1000000

/-- Why a SCRAM step failed. -/
inductive ScramFailure
  | accountUnsendable
  | clientNonce
  | notAwaitingFirst
  | notAwaitingFinal
  | missingAttributes
  | malformedAttribute
  | repeatedAttribute
  | serverRejected
  | nonceNotContinued
  | iterationsRange
  | signatureMismatch
  | malformedChallenge

/-- The fields of one SCRAM message. -/
structure Attributes where
  nonce : Option Bytes := none
  salt : Option Bytes := none
  iterations : Option Bytes := none
  verifier : Option Bytes := none
  serverError : Bool := false

/-- Store one attribute in its slot, refusing a repeated one. -/
def Attributes.store (attributes : Attributes) (key : UInt8) (value : Bytes) :
    Except ScramFailure Attributes :=
  if key = 114 then
    if attributes.nonce.isSome then .error .repeatedAttribute
    else .ok { attributes with nonce := some value }
  else if key = 115 then
    if attributes.salt.isSome then .error .repeatedAttribute
    else .ok { attributes with salt := some value }
  else if key = 105 then
    if attributes.iterations.isSome then .error .repeatedAttribute
    else .ok { attributes with iterations := some value }
  else if key = 118 then
    if attributes.verifier.isSome then .error .repeatedAttribute
    else .ok { attributes with verifier := some value }
  else .error .malformedAttribute

/-- Read one `key=value` part of a SCRAM message. -/
def parseAttribute (allowed : Bytes) (attributes : Attributes) (part : Bytes) :
    Except ScramFailure Attributes :=
  match part with
  | key :: equals :: value =>
      if equals ≠ 61 || value.isEmpty then .error .malformedAttribute
      else if key = 101 then
        if attributes.serverError then .error .repeatedAttribute
        else .ok { attributes with serverError := true }
      else if !allowed.contains key then .error .malformedAttribute
      else attributes.store key value
  | _ => .error .malformedAttribute

/-- Read a comma-separated attribute list. -/
def parseAttributes (message allowed : Bytes) : Except ScramFailure Attributes :=
  if message.isEmpty then .error .missingAttributes
  else (message.splitOn 44).foldlM (parseAttribute allowed) {}

/-- The iteration count: digits only, within 64 bits and within the bounds. -/
def parseIterations (text : Bytes) : Except ScramFailure Nat :=
  if text.isEmpty || !text.all isAsciiDigit then .error .malformedAttribute
  else
    match (fromUtf8? text).bind parseInt64 with
    | none => .error .malformedAttribute
    | some count =>
        if minIterations ≤ count ∧ count ≤ maxIterations then .ok count.toNat
        else .error .iterationsRange

/-- NUL, CR and LF cannot ride an IRC line. -/
def containsUnsendable (text : String) : Bool :=
  (utf8 text).any fun byte => byte == 0 || byte == 13 || byte == 10

/-- A client nonce is printable ASCII without a comma. -/
def acceptableNonce (nonce : Bytes) : Bool :=
  !nonce.isEmpty && nonce.all fun byte => 0x21 ≤ byte && byte ≤ 0x7E && byte != 44

/-- The account name with `=` and `,` escaped. -/
def escapeSaslName (name : String) : Bytes :=
  (utf8 name).flatMap fun byte =>
    if byte = 61 then utf8 "=3D" else if byte = 44 then utf8 "=2C" else [byte]

/-- Where the SCRAM machine stands. -/
inductive ScramStep
  | idle
  | awaitServerFirst
  | awaitServerFinal
  deriving DecidableEq

/-- The SCRAM client machine. -/
structure SaslScram where
  step : ScramStep := .idle
  password : String := ""
  clientNonce : Bytes := []
  clientFirstBare : Bytes := []
  authMessage : Bytes := []
  serverKey : Bytes := []

/-- The challenge received so far, still encoded. -/
structure ChallengeBuffer where
  accumulated : Bytes := []

/-- Where the AUTHENTICATE dialogue stands. -/
inductive ScramPhase
  | awaitPrompt
  | awaitServerFirst
  | awaitServerFinal
  | verified
  deriving DecidableEq

/-- What the session does after one AUTHENTICATE payload. -/
inductive ScramReply
  | send (raw : Bytes)
  | continue
  | fail

/-- One SCRAM exchange. -/
structure ScramExchange where
  phase : ScramPhase := .awaitPrompt
  scram : SaslScram := {}
  incoming : ChallengeBuffer := {}

/-- Whether the server signature has verified. -/
def ScramExchange.isVerified (exchange : ScramExchange) : Bool := exchange.phase = .verified

variable [Platform]

/-- Canonical base64 of an attribute value. -/
def decodeBase64 (text : Bytes) : Except ScramFailure Bytes :=
  if text.isEmpty then .error .malformedAttribute
  else
    match Platform.base64Decode text with
    | some decoded => .ok decoded
    | none => .error .malformedAttribute

/-- A fresh nonce from the random bytes of the operating system, empty when it refuses. -/
def generateNonce (entropy : Option Bytes) : Bytes :=
  match entropy with
  | some raw => Platform.base64Encode raw
  | none => []

namespace SaslScram

/-- Begin an exchange, with client-first as the message to send. -/
def start (account password : String) (entropy : Option Bytes) :
    SaslScram × Except ScramFailure Bytes :=
  if account = "" || containsUnsendable account || containsUnsendable password then
    ({}, .error .accountUnsendable)
  else
    let nonce := generateNonce entropy
    if !acceptableNonce nonce then ({}, .error .clientNonce)
    else
      let clientFirstBare := utf8 "n=" ++ escapeSaslName account ++ utf8 ",r=" ++ nonce
      ({ step := .awaitServerFirst, password, clientNonce := nonce, clientFirstBare },
        .ok (utf8 "n,," ++ clientFirstBare))

/-- The derivation behind `takeServerFirst`: parse, check the nonce, derive the keys. -/
def clientFinalFor (scram : SaslScram) (message : Bytes) :
    Except ScramFailure (SaslScram × Bytes) := do
  let attributes ← parseAttributes message (utf8 "rsi")
  if attributes.serverError then throw .serverRejected
  match attributes.nonce, attributes.salt, attributes.iterations with
  | some nonce, some salt, some iterations =>
      if nonce.length ≤ scram.clientNonce.length || !scram.clientNonce.isPrefixOf nonce then
        throw .nonceNotContinued
      let iterations ← parseIterations iterations
      let salt ← decodeBase64 salt
      let salted := Platform.pbkdf2HmacSha256 (utf8 scram.password) salt iterations
      let clientKey := Platform.hmacSha256 salted (utf8 "Client Key")
      let storedKey := Platform.sha256 clientKey
      let serverKey := Platform.hmacSha256 salted (utf8 "Server Key")
      let withoutProof := utf8 "c=biws,r=" ++ nonce
      let authMessage := scram.clientFirstBare ++ [44] ++ message ++ [44] ++ withoutProof
      let clientSignature := Platform.hmacSha256 storedKey authMessage
      let proof := List.zipWith (· ^^^ ·) clientKey clientSignature
      return ({ scram with step := .awaitServerFinal, password := "", authMessage, serverKey },
        withoutProof ++ utf8 ",p=" ++ Platform.base64Encode proof)
  | _, _, _ => throw .missingAttributes

/-- Consume server-first, with client-final as the message to send. A failed step leaves
nothing to continue. -/
def takeServerFirst (scram : SaslScram) (message : Bytes) :
    SaslScram × Except ScramFailure Bytes :=
  if scram.step ≠ .awaitServerFirst then (scram, .error .notAwaitingFirst)
  else
    match scram.clientFinalFor message with
    | .ok (next, clientFinal) => (next, .ok clientFinal)
    | .error failure => ({}, .error failure)

/-- Check the server signature. -/
def verifyServerFinal (scram : SaslScram) (message : Bytes) : Except ScramFailure Unit := do
  let attributes ← parseAttributes message (utf8 "v")
  if attributes.serverError then throw .serverRejected
  match attributes.verifier with
  | none => throw .missingAttributes
  | some encoded =>
      let verifier ← decodeBase64 encoded
      if Platform.hmacSha256 scram.serverKey scram.authMessage = verifier then return
      throw .signatureMismatch

/-- Consume server-final and verify the server signature. -/
def takeServerFinal (scram : SaslScram) (message : Bytes) :
    SaslScram × Except ScramFailure Unit :=
  if scram.step ≠ .awaitServerFinal then (scram, .error .notAwaitingFinal)
  else ({}, scram.verifyServerFinal message)

end SaslScram

/-- Consume one AUTHENTICATE payload of a challenge. `none` means more chunks are due. -/
def ChallengeBuffer.take (buffer : ChallengeBuffer) (payload : Bytes) :
    ChallengeBuffer × Except ScramFailure (Option Bytes) :=
  let barePlus := payload = utf8 "+"
  let midChunk := !buffer.accumulated.isEmpty &&
    buffer.accumulated.length % saslAuthenticateChunk ≠ 0
  let overflows := !barePlus && (payload.length > incomingEncodedLimit ||
    buffer.accumulated.length > incomingEncodedLimit - payload.length)
  if payload.isEmpty || midChunk || overflows then ({}, .error .malformedChallenge)
  else
    let encoded := if barePlus then buffer.accumulated else buffer.accumulated ++ payload
    if !barePlus && payload.length = saslAuthenticateChunk then (⟨encoded⟩, .ok none)
    else if encoded.isEmpty then ({}, .ok (some []))
    else
      match Platform.base64Decode encoded with
      | some decoded => ({}, .ok (some decoded))
      | none => ({}, .error .malformedChallenge)

/-- Handle one AUTHENTICATE payload of the server. -/
def ScramExchange.takePayload (exchange : ScramExchange) (payload : Bytes)
    (account password : String) (entropy : Option Bytes) : ScramExchange × ScramReply :=
  match exchange.phase with
  | .awaitPrompt =>
      if payload ≠ utf8 "+" then (exchange, .fail)
      else
        match SaslScram.start account password entropy with
        | (scram, .ok message) =>
            ({ exchange with scram, phase := .awaitServerFirst }, .send message)
        | (scram, .error _) => ({ exchange with scram }, .fail)
  | .verified => (exchange, .continue)
  | .awaitServerFirst =>
      match exchange.incoming.take payload with
      | (incoming, .ok none) => ({ exchange with incoming }, .continue)
      | (incoming, .error _) => ({ exchange with incoming }, .fail)
      | (incoming, .ok (some message)) =>
          match exchange.scram.takeServerFirst message with
          | (scram, .ok clientFinal) =>
              ({ scram, incoming, phase := .awaitServerFinal }, .send clientFinal)
          | (scram, .error _) => ({ exchange with scram, incoming }, .fail)
  | .awaitServerFinal =>
      match exchange.incoming.take payload with
      | (incoming, .ok none) => ({ exchange with incoming }, .continue)
      | (incoming, .error _) => ({ exchange with incoming }, .fail)
      | (incoming, .ok (some message)) =>
          match exchange.scram.takeServerFinal message with
          | (scram, .ok _) => ({ scram, incoming, phase := .verified }, .send [])
          | (scram, .error _) => ({ exchange with scram, incoming }, .fail)

/-- The pieces of at most `size` bytes of a text, in order. -/
def chunksOf (size : Nat) (bytes : Bytes) : List Bytes :=
  if _more : bytes = [] ∨ size = 0 then []
  else bytes.take size :: chunksOf size (bytes.drop size)
termination_by bytes.length
decreasing_by
  have := List.length_pos_iff.mpr (not_or.mp _more).1
  simp only [List.length_drop]
  omega

/-- The AUTHENTICATE frames of a response. -/
def encodeSaslFrames (raw : Bytes) : List Bytes :=
  let encoded := Platform.base64Encode raw
  if encoded.isEmpty then [utf8 "AUTHENTICATE +\r\n"]
  else
    let frames := (chunksOf saslAuthenticateChunk encoded).map fun chunk =>
      utf8 "AUTHENTICATE " ++ chunk ++ utf8 "\r\n"
    if encoded.length % saslAuthenticateChunk = 0 then frames ++ [utf8 "AUTHENTICATE +\r\n"]
    else frames

end Omairc.Session
