import Omairc.Irc.Framer
import Omairc.Irc.CommandBuilder
import Omairc.Irc.Presence
import Omairc.Irc.Source
import Omairc.Session.Connection
import Omairc.Session.SaslScram
import Omairc.Session.Sts

/-!
# The state of a session

`Control` holds what the connection lifecycle, the negotiation, SASL and the STS
upgrade read and write; `Core` adds the ledgers of the features built on a
registered connection. The split is what the frame lemmas of the handlers are
stated over: a feature handler leaves `Control` as it is.
-/

namespace Omairc.Session

open Omairc.Text Omairc.Irc

/-- The CHATHISTORY page size before the server caps it. -/
def historyLimit : Nat := 100

/-- The AFTER pages chained before one LATEST bound closes the gap. -/
def historyAfterPageCap : Nat := 10

/-- Playback and LATEST lines kept for each batch. -/
def historyBufferCeiling : Nat := 256

/-- Open batches tolerated before unsolicited batches are dropped. -/
def maxOpenBatches : Nat := 16

/-- Ignored batch references remembered before new ones are forgotten. -/
def maxIgnoredBatches : Nat := 32

/-- The longest CTCP PING argument that is answered. -/
def ctcpPingPayloadMaxBytes : Nat := 32

/-- One millisecond of the clock. -/
def millisecond : Int := 1000000

/-- The minimum spacing of CTCP replies to one nick. -/
def ctcpReplyInterval : Int := 5000 * millisecond

/-- Which nick the registration tries next. -/
inductive RegistrationNick
  | configured
  | underscore
  | digit

/-- The SASL bookkeeping of one connection. -/
structure SaslState where
  requested : Bool := false
  pending : Bool := false
  succeeded : Bool := false
  mechanism : Option SaslMechanism := none
  exchangeStarted : Bool := false
  scram : Option ScramExchange := none

/-- Whether SCRAM is the mechanism and the server has not verified its signature yet. -/
def SaslState.scramUnverified (sasl : SaslState) : Bool :=
  sasl.mechanism = some .scramSha256 && !sasl.scram.any ScramExchange.isVerified

/-- The timers of a session. -/
inductive TimerSlot
  | reconnect
  | capability
  | registration
  | ping
  | label
  deriving DecidableEq

/-- An armed timer, with its delay in nanoseconds. -/
structure ArmedTimer where
  id : Nat
  delay : Nat
  deriving DecidableEq

/-- What the surroundings answer while an entry point runs: the clock, the policy the
shared STS cache holds for the configured host, and the system's random bytes. -/
structure Readings where
  now : Instant := 0
  cachedSts : Option StsCached := none
  entropy : Option Bytes := none

/-- The part of the session that decides its lifecycle. -/
structure Control where
  config : SessionConfig
  readings : Readings
  transport : Transport
  stsOperations : List StsOperation
  port : UInt16
  tlsEnabled : Bool
  caps : IrcCapabilityNegotiation
  framer : IrcFramer
  ping : PingState
  connection : Connection
  registrationSent : Bool
  registrationNick : RegistrationNick
  sasl : SaslState
  capabilityNegotiationEnded : Bool
  capabilityListSeen : Bool
  pendingSts : Option StsAdvertisement
  stsDuration : Option Int
  state : SessionState

/-- The CHATHISTORY subcommand a pending request was sent as. -/
inductive HistoryRequestKind
  | latest
  | before
  | after
  | afterTail
  deriving DecidableEq

/-- The exclusive bound of the next CHATHISTORY AFTER page. -/
structure HistoryCursor where
  msgid : String := ""
  time : Option Instant := none

/-- The CHATHISTORY state of one connection, keyed by the folded channel name. -/
structure HistoryLedger where
  generation : StringMap Nat := {}
  asked : StringSet := {}
  pending : StringMap Nat := {}
  pendingBefore : StringSet := {}
  pendingKind : StringMap HistoryRequestKind := {}
  exhausted : StringSet := {}
  afterPages : StringMap Nat := {}
  afterCursor : StringMap HistoryCursor := {}
  afterPageCap : Nat := historyAfterPageCap
  targetsPending : Bool := false

/-- One batch the session is collecting, or a child of one. -/
structure OpenBatch where
  replayRoot : String := ""
  kind : Option HistoryKind := none
  collected : HistoryBatch := {}
  generation : Nat := 0
  requestLabel : String := ""
  historyEnded : Bool := false
  historyRequest : Option HistoryRequestKind := none

/-- The open and the ignored batch references of one connection. -/
structure BatchLedger where
  openBatches : StringMap OpenBatch := {}
  ignored : StringSet := {}

/-- A read marker that waits to be sent. -/
structure ReadMarkerQueue where
  target : String
  timestamp : Instant

/-- Pending and in-flight read markers, keyed by the folded target. -/
structure ReadMarkerLedger where
  pending : StringMap ReadMarkerQueue := {}
  inFlight : StringMap Instant := {}
  lastKnown : StringMap Instant := {}

/-- The outbound typing pace of one target. -/
structure TargetClock where
  lastSentAt : Option Instant := none
  lastPhase : TypingPhase := .active
  suppressDone : Bool := false

/-- A metadata sync the server asked to be retried later. -/
structure MetadataRetry where
  target : String
  delay : Nat

/-- Everything the session mutates. -/
structure Core extends Control where
  nickname : String
  channelTypes : String
  features : IrcServerFeatures
  historyLimit : Nat
  autojoinChannels : List String
  autojoinKeys : StringMap String
  pendingJoinKeys : StringMap String
  readMarkerToken : Option ReadMarkerToken
  metadata : MetadataCapability
  publishedCaps : IrcCapabilitySet
  typing : StringMap TargetClock
  batches : BatchLedger
  history : HistoryLedger
  readMarkers : ReadMarkerLedger
  pendingLabels : StringMap Instant
  nextRequestLabel : Nat
  ctcpReplyClock : StringMap Instant
  metadataRetries : List MetadataRetry
  ignoreFilter : Option (IrcMessage → String → String → Bool)
  pendingInvite : Option PendingInvite
  historyResume : Option (String → IrcCaseMapping → Option Instant)
  timers : TimerSlot → Option ArmedTimer
  timerSequence : Nat
  events : List SessionEvent
  effects : List Effect
  receivedLog : Option (List IrcMessage)

namespace Core

/-- A session that has not been started. -/
def new (config : SessionConfig) : Core where
  config := config
  readings := {}
  transport := {}
  stsOperations := []
  port := config.port
  tlsEnabled := config.tlsEnabled
  caps := .new (config.saslSecret ≠ "")
  framer := {}
  ping := .off
  connection := {}
  registrationSent := false
  registrationNick := .configured
  sasl := {}
  capabilityNegotiationEnded := false
  capabilityListSeen := false
  pendingSts := none
  stsDuration := none
  state := .idle
  nickname := config.nick
  channelTypes := ""
  features := {}
  historyLimit := Session.historyLimit
  autojoinChannels := config.autojoinChannels
  autojoinKeys := config.autojoinKeys
  pendingJoinKeys := {}
  readMarkerToken := none
  metadata := {}
  publishedCaps := ∅
  typing := {}
  batches := {}
  history := {}
  readMarkers := {}
  pendingLabels := {}
  nextRequestLabel := 0
  ctcpReplyClock := {}
  metadataRetries := []
  ignoreFilter := none
  pendingInvite := none
  historyResume := none
  timers := fun _ => none
  timerSequence := 0
  events := []
  effects := []
  receivedLog := none

variable (core : Core)

/-- The clock reading of the entry point. -/
def now : Instant := core.readings.now

/-- The network the session serves. -/
def networkId : String := core.config.networkId

/-- Queue an event for the owner. -/
def emit (event : SessionEvent) : Core := { core with events := core.events ++ [event] }

/-- Queue a transport call. -/
def queue (effect : Effect) : Core := { core with effects := core.effects ++ [effect] }

/-- Arm a timer slot, replacing its armed timer. -/
def armTimer (slot : TimerSlot) (delay : Nat) : Core :=
  { core with
    timerSequence := core.timerSequence + 1
    timers := Function.update core.timers slot (some ⟨core.timerSequence + 1, delay⟩) }

/-- Disarm a timer slot. -/
def cancelTimer (slot : TimerSlot) : Core :=
  { core with timers := Function.update core.timers slot none }

/-- Move to a state, with an event when it changes. Leaving Registered drops a pending
INVITE. -/
def setState (state : SessionState) : Core :=
  if core.state = state then core
  else
    let left := if core.state = .registered then { core with pendingInvite := none } else core
    { left with state }.emit (.stateChanged core.networkId state)

/-- Whether two nicks are equal under the advertised case mapping. -/
def nicksEqual (left right : String) : Bool := core.features.caseMapping.equals left right

/-- The comparison form of a channel name. -/
def foldChannel (channel : String) : String := core.features.caseMapping.normalize channel

/-- Whether a nick is this session's own. -/
def isSelf (nick : String) : Bool := nick ≠ "" && core.nicksEqual nick core.nickname

/-- Whether the source of a message is this session's own nick. -/
def selfPrefixed (message : IrcMessage) : Bool := core.isSelf (claimedNick message)

/-- Queue an inbound message for the translator. -/
def emitMessageReceived (message : IrcMessage) : Core :=
  { core with receivedLog := core.receivedLog.map (· ++ [message]) }.emit
    (.messageReceived core.networkId message)

end Core

/-- Whether a target can take PRIVMSG. -/
def isValidPrivmsgTarget (target : String) : Bool :=
  target ≠ "" && !startsWithChar target ':' &&
    !target.toList.any fun character => isWhitespace character || isControl character

/-- The replay kind of a batch type. -/
def replayKindFor [Platform] (batchType : String) : Option HistoryKind :=
  match Platform.toLowercase batchType with
  | "chathistory" | "draft/chathistory" => some .chat
  | "draft/chathistory-targets" => some .targets
  | "znc.in/playback" => some .bouncerPlayback
  | _ => none

/-- The delay of a timer given in milliseconds. -/
def fromMillis (milliseconds : Nat) : Nat := milliseconds * 1000000

end Omairc.Session
