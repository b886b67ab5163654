import Mathlib.Data.Finset.Dedup
import Mathlib.Data.Finset.Insert
import Mathlib.Logic.Function.Basic
import Omairc.Irc.WireText
import Omairc.Text.Strings

/-!
# Capability negotiation

The tokens of one CAP exchange: what the server advertised, what was requested,
granted and refused. `WantedToken` lists the rows of the wanted table in the order
of the request lines, and the token map is a function on the rows, so a token
outside the table cannot carry a state.
-/

namespace Omairc.Irc

open Omairc.Text

/-- The capabilities the client knows about. -/
inductive IrcCapability
  | sasl
  | awayNotify
  | batch
  | memberMetadata
  | messageTags
  | multiPrefix
  | chghost
  | capNotify
  | echoMessage
  | chatHistory
  | serverTime
  | labeledResponse
  | accountTag
  | accountNotify
  | extendedJoin
  | readMarker
  | zncPlayback
  deriving DecidableEq

/-- A set of capabilities. -/
abbrev IrcCapabilitySet := Finset IrcCapability

/-- The SASL mechanisms the client can drive. -/
inductive SaslMechanism
  | plain
  | scramSha256
  deriving DecidableEq

/-- The mechanism's name on the wire. -/
def SaslMechanism.text : SaslMechanism → String
  | .plain => "PLAIN"
  | .scramSha256 => "SCRAM-SHA-256"

/-- Where one advertised token stands. -/
inductive TokenState
  | advertised
  | requested
  | enabled
  | refused
  deriving DecidableEq

/-- The rows of the wanted table. -/
inductive WantedToken
  | sasl
  | awayNotify
  | batch
  | metadata2
  | messageTags
  | multiPrefix
  | chghost
  | capNotify
  | echoMessage
  | serverTime
  | chathistory
  | draftChathistory
  | zncPlayback
  | labeledResponse
  | accountTag
  | accountNotify
  | extendedJoin
  | draftReadMarker
  | sojuRead
  deriving DecidableEq

/-- The wanted table, in request line order. -/
def wantedTokens : List WantedToken :=
  [.sasl, .awayNotify, .batch, .metadata2, .messageTags, .multiPrefix, .chghost, .capNotify,
    .echoMessage, .serverTime, .chathistory, .draftChathistory, .zncPlayback, .labeledResponse,
    .accountTag, .accountNotify, .extendedJoin, .draftReadMarker, .sojuRead]

/-- Every row is in the table. -/
@[simp] theorem mem_wantedTokens (wanted : WantedToken) : wanted ∈ wantedTokens := by
  cases wanted <;> decide

/-- Whether a comma-separated SASL value lists a mechanism. -/
def saslValueLists (value : String) (mechanism : SaslMechanism) : Bool :=
  (splitText ',' value).any fun offered =>
    offered ≠ "" && eqIgnoreAsciiCase offered mechanism.text

/-- A bare `sasl` is accepted; a value must list a mechanism the client can drive. -/
def acceptsSaslValue (value : String) : Bool :=
  value = "" || saslValueLists value .plain || saslValueLists value .scramSha256

/-- SCRAM-SHA-256 where it is listed, PLAIN otherwise. -/
def chosenSaslMechanism (value : String) : SaslMechanism :=
  if saslValueLists value .scramSha256 then .scramSha256 else .plain

namespace WantedToken

/-- The capability a row requests. -/
def capability : WantedToken → IrcCapability
  | sasl => .sasl
  | awayNotify => .awayNotify
  | batch => .batch
  | metadata2 => .memberMetadata
  | messageTags => .messageTags
  | multiPrefix => .multiPrefix
  | chghost => .chghost
  | capNotify => .capNotify
  | echoMessage => .echoMessage
  | serverTime => .serverTime
  | chathistory => .chatHistory
  | draftChathistory => .chatHistory
  | zncPlayback => .zncPlayback
  | labeledResponse => .labeledResponse
  | accountTag => .accountTag
  | accountNotify => .accountNotify
  | extendedJoin => .extendedJoin
  | draftReadMarker => .readMarker
  | sojuRead => .readMarker

/-- The token's spelling on the wire. -/
def text : WantedToken → String
  | sasl => "sasl"
  | awayNotify => "away-notify"
  | batch => "batch"
  | metadata2 => "draft/metadata-2"
  | messageTags => "message-tags"
  | multiPrefix => "multi-prefix"
  | chghost => "chghost"
  | capNotify => "cap-notify"
  | echoMessage => "echo-message"
  | serverTime => "server-time"
  | chathistory => "chathistory"
  | draftChathistory => "draft/chathistory"
  | zncPlayback => "znc.in/playback"
  | labeledResponse => "labeled-response"
  | accountTag => "account-tag"
  | accountNotify => "account-notify"
  | extendedJoin => "extended-join"
  | draftReadMarker => "draft/read-marker"
  | sojuRead => "soju.im/read"

/-- A capability that must be advertised before this one is requested. -/
def dependency : WantedToken → Option IrcCapability
  | metadata2 | chathistory | draftChathistory | zncPlayback => some .batch
  | labeledResponse | accountTag => some .messageTags
  | _ => none

/-- Whether the row is requested only with credentials. -/
def needsCredentials : WantedToken → Bool
  | sasl => true
  | _ => false

/-- Whether the row rides a request line of its own. -/
def ownRequestLine : WantedToken → Bool
  | sasl | messageTags | serverTime | zncPlayback | labeledResponse => true
  | _ => false

/-- Whether an advertised value can be used. -/
def acceptsValue : WantedToken → String → Bool
  | sasl => acceptsSaslValue
  | _ => fun _ => true

end WantedToken

/-- What stands before the first `=` of a capability token. -/
def tokenKey (token : String) : String := ((splitTextOnce '=' token).map Prod.fst).getD token

/-- What stands after the first `=` of a capability token, or nothing. -/
def tokenValue (token : String) : String := ((splitTextOnce '=' token).map Prod.snd).getD ""

/-- The capability name of a CAP token, without a leading `-`. -/
def tokenName (token : String) : String := (stripLead "-" (tokenKey token)).getD (tokenKey token)

/-- The wanted row of a capability name, matched without regard to ASCII case. -/
def wantedFor (name : String) : Option WantedToken :=
  wantedTokens.find? fun wanted => eqIgnoreAsciiCase wanted.text name

/-- The requests of one CAP REQ round. -/
structure IrcCapabilityRequest where
  lines : List String := []
  requestsSasl : Bool := false
  saslMechanism : Option SaslMechanism := none

/-- One CAP exchange. -/
structure IrcCapabilityNegotiation where
  tokens : WantedToken → Option TokenState
  saslAdvertisedValue : String
  saslCredentialsAvailable : Bool

namespace IrcCapabilityNegotiation

/-- A negotiation with nothing advertised. -/
def new (saslCredentialsAvailable : Bool) : IrcCapabilityNegotiation where
  tokens := fun _ => none
  saslAdvertisedValue := ""
  saslCredentialsAvailable := saslCredentialsAvailable

variable (caps : IrcCapabilityNegotiation)

/-- Move one row to a state. -/
def setState (wanted : WantedToken) (state : TokenState) : IrcCapabilityNegotiation :=
  { caps with tokens := Function.update caps.tokens wanted (some state) }

/-- Whether some row of a capability is in one of the states. -/
def anyToken (capability : IrcCapability) (states : List TokenState) : Bool :=
  wantedTokens.any fun wanted =>
    wanted.capability = capability && (caps.tokens wanted).any states.contains

/-- Record one token of a CAP LS or NEW. -/
def advertiseToken (token : String) : IrcCapabilityNegotiation :=
  match wantedFor (tokenName token) with
  | none => caps
  | some wanted =>
      let value := tokenValue token
      if !wanted.acceptsValue value then caps
      else if caps.tokens wanted = some .enabled || caps.tokens wanted = some .requested then caps
      else
        let noted := if wanted.capability = .sasl then { caps with saslAdvertisedValue := value }
          else caps
        noted.setState wanted .advertised

/-- Record the tokens of a CAP LS or NEW. -/
def advertise (tokens : List String) : IrcCapabilityNegotiation :=
  tokens.foldl advertiseToken caps

/-- Forget one token of a CAP DEL. -/
def withdrawToken (token : String) : IrcCapabilityNegotiation :=
  match wantedFor (tokenName token) with
  | none => caps
  | some wanted =>
      let noted := if wanted.capability = .sasl then { caps with saslAdvertisedValue := "" }
        else caps
      { noted with tokens := Function.update noted.tokens wanted none }

/-- Forget the tokens of a CAP DEL. -/
def withdraw (tokens : List String) : IrcCapabilityNegotiation :=
  tokens.foldl withdrawToken caps

/-- Whether a row can be requested now. -/
def isRequestable (wanted : WantedToken) : Bool :=
  caps.tokens wanted = some .advertised &&
    !caps.anyToken wanted.capability [.enabled, .requested] &&
    !(wanted.needsCredentials && !caps.saslCredentialsAvailable) &&
    match wanted.dependency with
    | some dependency => caps.anyToken dependency [.advertised, .requested, .enabled]
    | none => true

/-- The progress of one pass over the wanted table. `presence` collects the tokens of
the shared line. -/
structure RequestScan where
  caps : IrcCapabilityNegotiation
  request : IrcCapabilityRequest := {}
  presence : List String := []

/-- Request one row when it can be requested. -/
def requestToken (scan : RequestScan) (wanted : WantedToken) : RequestScan :=
  if !scan.caps.isRequestable wanted then scan
  else
    let placed := if wanted.ownRequestLine then
        { scan with request.lines := scan.request.lines ++ [wanted.text] }
      else { scan with presence := scan.presence ++ [wanted.text] }
    let chosen := if wanted.capability = .sasl then
        { placed with
          request.requestsSasl := true
          request.saslMechanism := some (chosenSaslMechanism scan.caps.saslAdvertisedValue) }
      else placed
    { chosen with caps := scan.caps.setState wanted .requested }

/-- The request lines of everything that can be requested now, marked requested. -/
def takeRequest : IrcCapabilityNegotiation × IrcCapabilityRequest :=
  let scan := wantedTokens.foldl requestToken { caps }
  let lines := if scan.presence = [] then scan.request.lines
    else scan.request.lines ++ [joinTexts " " scan.presence]
  (scan.caps, { scan.request with lines })

/-- Apply one token of a CAP ACK. -/
def acknowledgeToken (progress : IrcCapabilityNegotiation × IrcCapabilitySet) (token : String) :
    IrcCapabilityNegotiation × IrcCapabilitySet :=
  let (caps, newlyEnabled) := progress
  match wantedFor (tokenName token) with
  | none => progress
  | some wanted =>
      if startsWithChar token '-' then
        if caps.tokens wanted = some .enabled then (caps.setState wanted .refused, newlyEnabled)
        else progress
      else if caps.tokens wanted ≠ some .requested then progress
      else
        (caps.setState wanted .enabled,
          if caps.anyToken wanted.capability [.enabled] then newlyEnabled
          else insert wanted.capability newlyEnabled)

/-- Apply a CAP ACK, with the capabilities it newly enabled. -/
def acknowledge (tokens : List String) : IrcCapabilityNegotiation × IrcCapabilitySet :=
  tokens.foldl acknowledgeToken (caps, ∅)

/-- Apply one token of a CAP NAK. -/
def rejectToken (progress : IrcCapabilityNegotiation × IrcCapabilitySet) (token : String) :
    IrcCapabilityNegotiation × IrcCapabilitySet :=
  let (caps, refused) := progress
  match wantedFor (tokenName token) with
  | none => progress
  | some wanted =>
      if caps.tokens wanted ≠ some .requested then progress
      else (caps.setState wanted .refused, insert wanted.capability refused)

/-- Apply a CAP NAK, with the capabilities it refused. -/
def reject (tokens : List String) : IrcCapabilityNegotiation × IrcCapabilitySet :=
  tokens.foldl rejectToken (caps, ∅)

/-- Give up on one row that still waits for an answer. -/
def abandonToken (progress : IrcCapabilityNegotiation × IrcCapabilitySet) (wanted : WantedToken) :
    IrcCapabilityNegotiation × IrcCapabilitySet :=
  let (caps, abandoned) := progress
  if caps.tokens wanted ≠ some .requested then progress
  else (caps.setState wanted .refused, insert wanted.capability abandoned)

/-- Refuse everything that still waits for an answer, with the capabilities given up. -/
def abandonOutstanding : IrcCapabilityNegotiation × IrcCapabilitySet :=
  wantedTokens.foldl abandonToken (caps, ∅)

/-- Whether nothing waits for an answer. -/
def settled : Bool := !wantedTokens.any fun wanted => caps.tokens wanted = some .requested

/-- The enabled capabilities. -/
def enabled : IrcCapabilitySet :=
  ((wantedTokens.filter fun wanted => caps.tokens wanted = some .enabled).map
    WantedToken.capability).toFinset

end IrcCapabilityNegotiation

end Omairc.Irc
