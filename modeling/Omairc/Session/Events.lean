import Mathlib.Data.List.Basic
import Omairc.Irc.Capability
import Omairc.Irc.Message
import Omairc.Platform

/-!
# What a session tells its owner and its transport

The states of the session, the events it queues for its owner, and the effects it
queues for its transport.
-/

namespace Omairc.Session

open Omairc.Text Omairc.Irc

/-- The states of the session. -/
inductive SessionState
  | idle
  | connecting
  | stsUpgrading
  | capLs
  | capReq
  | sasl
  | registering
  | registered
  | closing
  | reconnecting
  | failed
  deriving DecidableEq

/-- Why a session failed. -/
inductive ErrorKind
  | protocol
  | authentication
  | tls
  | network
  | registration
  deriving DecidableEq

/-- Severity of a lifecycle note. -/
inductive Severity
  | info
  | alert

/-- The replay batches the session collects. -/
inductive HistoryKind
  | chat
  | bouncerPlayback
  | targets
  deriving DecidableEq

/-- One row of a CHATHISTORY TARGETS answer. -/
structure HistoryTarget where
  name : String
  latest : Option Instant

/-- One completed replay batch. -/
structure HistoryBatch where
  target : String := ""
  lines : List IrcMessage := []
  kind : Option HistoryKind := none
  olderPage : Bool := false
  historyEnded : Bool := false
  afterRequest : Bool := false
  targets : List HistoryTarget := []

/-- The last unhandled INVITE. -/
structure PendingInvite where
  nick : String
  channel : String

/-- One event for the owner of the session. -/
inductive SessionEvent
  | stateChanged (networkId : String) (state : SessionState)
  | errorOccurred (networkId : String) (kind : ErrorKind) (message : String)
  | registered (networkId : String)
  | reconnectScheduled (networkId : String) (delayMs attempt : Nat)
  | inbound (networkId : String) (message : IrcMessage) (requestLabel nick channelTypes : String)
      (at_ : Instant)
  | outbound (networkId : String) (line : Bytes) (channelTypes : String) (at_ : Instant)
  | lifecycle (networkId : String) (severity : Severity) (kind text : String) (at_ : Instant)
  | messageReceived (networkId : String) (message : IrcMessage)
  | historyBatchReceived (networkId : String) (batch : HistoryBatch)
  | chatHistoryRequestFinished (networkId target : String) (failed before : Bool)
  | chatHistoryFailed (networkId subcommand target : String)
  | capabilitiesChanged (networkId : String) (capabilities : IrcCapabilitySet)
  | requestLabelFinished (networkId label : String)
  | autojoinChannelsChanged (networkId : String) (channels : List String)
      (keys : StringMap String)
  | readMarkerReceived (networkId target : String) (marker : Option Instant)

/-- One deferred transport call. -/
inductive Effect
  | write (frame : Bytes)
  | connect (host : String) (port : UInt16) (tls : Bool)
  | shutdown
  | settleStop
  deriving DecidableEq

/-- The states of the transport. -/
inductive ConnectionState
  | idle
  | connecting
  | connected
  | encrypted
  | closing
  | disconnected
  | failed
  deriving DecidableEq

/-- Why a transport failed. -/
inductive TransportErrorKind
  | resolve
  | network
  | timeout
  | tls
  | certificate
  deriving DecidableEq

/-- A transport failure with its presentable message. -/
structure TransportError where
  kind : TransportErrorKind
  message : String
  deriving DecidableEq

/-- The transport as the session sees it: its state, and whether the connection it
works on is a TLS one. -/
structure Transport where
  state : ConnectionState := .idle
  tlsOn : Bool := false

/-- A connect that has started and not yet ended. -/
def ConnectionState.inFlight : ConnectionState → Bool
  | .connecting | .connected | .encrypted | .closing => true
  | _ => false

/-- An open pipe, plaintext or encrypted. -/
def ConnectionState.isOpen : ConnectionState → Bool
  | .connected | .encrypted => true
  | _ => false

end Omairc.Session
