import Omairc.Session.History
import Omairc.Session.Registration

/-!
# CAP and SASL

The session's side of capability negotiation: what it requests, how it acts on the
subcommands of CAP, the SASL dialogue, and the end of negotiation. A failed SCRAM
exchange is never retried with PLAIN.
-/

namespace Omairc.Session

open Omairc.Text Omairc.Irc

/-- The PLAIN credential. -/
def plainCredential (account secret : String) : Bytes :=
  utf8 account ++ [0] ++ utf8 account ++ [0] ++ utf8 secret

namespace Core

/-- Start capability negotiation after the socket opened. -/
def beginCapabilityNegotiation (core : Core) : Core :=
  ((core.setState .capLs).sendLine (utf8 "CAP LS 302" ++ crlf)).armTimer .registration
    (fromMillis core.config.registrationTimeoutMs)

/-- Send CAP END once registration was sent and every request has settled. -/
def endCapabilityNegotiation (core : Core) : Core :=
  if core.capabilityNegotiationEnded || core.state = .registered then core
  else if !core.registrationSent || !core.caps.settled || core.sasl.pending then core
  else
    ({ core with capabilityNegotiationEnded := true }.cancelTimer .capability).sendLine
      (utf8 "CAP END" ++ crlf)

/-- The SASL bookkeeping after a request round. -/
def noteRequest (sasl : SaslState) (request : IrcCapabilityRequest) : SaslState :=
  if request.requestsSasl then
    { sasl with
      requested := true
      pending := true
      -- A mechanism that an exchange already runs is not replaced.
      mechanism := if sasl.exchangeStarted then sasl.mechanism else request.saslMechanism }
  else sasl

/-- Send the request lines of a round. -/
def sendRequest (core : Core) (request : IrcCapabilityRequest) : Core :=
  if request.lines.isEmpty then core
  else
    let moved := if core.registrationSent then core else core.setState .capReq
    (request.lines.foldl (fun core text => core.sendLine (utf8 ("CAP REQ :" ++ text) ++ crlf))
      moved).armTimer .capability (fromMillis core.config.capabilityTimeoutMs)

/-- Request everything that can be requested now, then register. -/
def requestCapabilities (core : Core) : Core :=
  let (caps, request) := core.caps.takeRequest
  ({ core with caps, sasl := noteRequest core.sasl request }.sendRequest
    request).sendRegistration.endCapabilityNegotiation

/-- The CAP timeout passed before every answer came back. -/
def onCapabilityTimeout (core : Core) : Core :=
  let (caps, abandoned) := core.caps.abandonOutstanding
  let sasl := if .sasl ∈ abandoned then { core.sasl with pending := false } else core.sasl
  { core with caps, sasl }.publishCapabilities.endCapabilityNegotiation

/-- Note which read-marker spelling the server acknowledged. -/
def noteReadMarkerAck (core : Core) (tokens : List String) (granted : IrcCapabilitySet) : Core :=
  if .readMarker ∉ granted ∨ core.readMarkerToken.isSome then core
  else
    { core with
      readMarkerToken := tokens.findSome? fun token =>
        if token = ReadMarkerToken.draftReadMarker.text then some .draftReadMarker
        else if token = ReadMarkerToken.sojuRead.text then some .sojuRead
        else none }

variable [Platform]

/-- Keep the metadata limits a CAP line carries. -/
def noteMetadata (core : Core) (tokens : List String) : Core :=
  match parseMetadataCapability tokens with
  | some metadata => { core with metadata }
  | none => core

/-- Keep the metadata limits of a CAP ACK. A bare one keeps the limits already learned. -/
def noteAcknowledgedMetadata (core : Core) (tokens : List String) : Core :=
  match parseMetadataCapability tokens with
  | some metadata =>
      if metadata.maxSubs.isSome || metadata.maxValueBytes.isSome then { core with metadata }
      else core
  | none => core

/-- Handle `CAP LS`, with the subcommand at an index. -/
def handleCapLs (core : Core) (message : IrcMessage) (index : Nat) : Core :=
  let tokens := capabilityTokens message index
  let advertised :=
    { core with
      capabilityListSeen := true
      caps := core.caps.advertise tokens
      pendingSts := (parseStsAdvertisement tokens).or core.pendingSts }.noteMetadata tokens
  if message.params.length > index + 1 && message.textParam (index + 1) = "*" then advertised
  else
    let secured := advertised.handleStsAdvertisement advertised.pendingSts
    if secured.state = .stsUpgrading then secured else secured.requestCapabilities

/-- Handle `CAP NEW`. -/
def handleCapNew (core : Core) (message : IrcMessage) (index : Nat) : Core :=
  let tokens := capabilityTokens message index
  let secured :=
    ({ core with caps := core.caps.advertise tokens }.handleStsAdvertisement
      (parseStsAdvertisement tokens)).noteMetadata tokens
  if secured.state = .stsUpgrading then secured else secured.requestCapabilities

/-- Handle `CAP DEL`. -/
def handleCapDel (core : Core) (message : IrcMessage) (index : Nat) : Core :=
  let tokens := capabilityTokens message index
  let withdrawn :=
    { core with
      caps := core.caps.withdraw tokens
      readMarkerToken := core.readMarkerToken.filter fun token =>
        !tokens.contains token.text }.publishCapabilities
  let limited := if .memberMetadata ∉ withdrawn.caps.enabled then { withdrawn with metadata := {} }
    else withdrawn
  let abandoned := if limited.replayEnabled .chat then limited
    else limited.abandonHistoryRequests
  abandoned.requestCapabilities

/-- Begin the SASL exchange that a CAP ACK granted. -/
def beginSaslExchange (core : Core) : Core :=
  let started := { core with sasl.exchangeStarted := true }.setState .sasl
  if core.sasl.mechanism = some .scramSha256 then
    { started with sasl.scram := some {} }.sendLine (utf8 "AUTHENTICATE SCRAM-SHA-256" ++ crlf)
  else started.sendLine (utf8 "AUTHENTICATE PLAIN" ++ crlf)

/-- Handle `CAP ACK`. -/
def handleCapAck (core : Core) (message : IrcMessage) (index : Nat) : Core :=
  let tokens := capabilityTokens message index
  let (caps, granted) := core.caps.acknowledge tokens
  let published :=
    (({ core with caps }.noteReadMarkerAck tokens granted).noteAcknowledgedMetadata
      tokens).publishCapabilities
  if .sasl ∈ granted ∧ core.sasl.exchangeStarted = false then published.beginSaslExchange
  else if published.state = .registered then
    published.subscribeToMemberMetadata.endCapabilityNegotiation
  else published.endCapabilityNegotiation

/-- Handle `CAP NAK`. -/
def handleCapNak (core : Core) (message : IrcMessage) (index : Nat) : Core :=
  let (caps, refused) := core.caps.reject (capabilityTokens message index)
  if .sasl ∈ refused then
    { core with caps, sasl.pending := false }.fail .authentication
      "Server rejected the SASL capability" false
  else { core with caps }.requestCapabilities

/-- Handle an inbound CAP line. The subcommand is found by scanning the parameters. -/
def handleCap (core : Core) (message : IrcMessage) : Core :=
  match message.paramIndex "LS" with
  | some index => core.handleCapLs message index
  | none =>
      -- Every other subcommand answers a negotiation that CAP LS started.
      if !core.capabilityListSeen then core
      else
        match message.paramIndex "NEW" with
        | some index => core.handleCapNew message index
        | none =>
            match message.paramIndex "DEL" with
            | some index => core.handleCapDel message index
            | none =>
                match message.paramIndex "ACK" with
                | some index => core.handleCapAck message index
                | none =>
                    match message.paramIndex "NAK" with
                    | some index => core.handleCapNak message index
                    | none => core

/-- Write a SASL response in its frames. -/
def sendSaslResponse (core : Core) (raw : Bytes) : Core :=
  (encodeSaslFrames raw).foldl sendLine core

/-- Drive the SCRAM dialogue by one payload. -/
def handleScramAuthenticate (core : Core) (payload : Bytes) : Core :=
  match core.sasl.scram with
  | none => core
  | some exchange =>
      let (next, reply) := exchange.takePayload payload core.config.saslAccountName
        core.config.saslSecret core.readings.entropy
      let advanced := { core with sasl.scram := some next }
      match reply with
      | .send raw => advanced.sendSaslResponse raw
      | .continue => advanced
      | .fail => advanced.fail .authentication "SASL authentication failed" false

/-- Handle an AUTHENTICATE challenge. -/
def handleAuthenticate (core : Core) (message : IrcMessage) : Core :=
  if core.state ≠ .sasl || message.params.isEmpty then core
  else
    let front := message.textParam 0
    if front = "*" then core.fail .authentication "Server aborted SASL authentication" false
    else if core.sasl.mechanism = some .scramSha256 then core.handleScramAuthenticate (utf8 front)
    else if front ≠ "+" then core
    else
      core.sendSaslResponse (plainCredential core.config.saslAccountName core.config.saslSecret)

/-- Handle the numeric of SASL success. -/
def handleSaslSuccess (core : Core) : Core :=
  if core.state ≠ .sasl then core
  else if !core.sasl.pending then core
  else if core.sasl.scramUnverified then
    core.fail .authentication "SASL authentication failed" false
  else
    { core with
      sasl.pending := false
      sasl.succeeded := true }.endCapabilityNegotiation.setState .registering

end Core

end Omairc.Session
