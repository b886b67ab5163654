import Omairc.Session.Events
import Omairc.Irc.ServerFeatures

/-!
# Configuration, disconnect intent and the ping watchdog's state

The per-network settings, why the transport is going away, how many reconnects were
scheduled, and where the watchdog stands.
-/

namespace Omairc.Session

open Omairc.Text Omairc.Irc

/-- The per-network settings. Times are in milliseconds. -/
structure SessionConfig where
  networkId : String
  host : String
  port : UInt16
  tlsEnabled : Bool
  nick : String
  username : String
  realname : String
  password : String
  nickservPassword : String
  saslAccount : String
  autojoinChannels : List String
  autojoinKeys : StringMap String
  reconnectEnabled : Bool
  reconnectBaseDelayMs : Nat
  reconnectMaximumDelayMs : Nat
  capabilityTimeoutMs : Nat
  registrationTimeoutMs : Nat
  pingTimeoutMs : Nat
  labeledResponseTimeoutMs : Nat

namespace SessionConfig

/-- The default settings of a profile. -/
def withDefaults (networkId host nick : String) : SessionConfig where
  networkId := networkId
  host := host
  port := 6697
  tlsEnabled := true
  nick := nick
  username := nick
  realname := nick
  password := ""
  nickservPassword := ""
  saslAccount := ""
  autojoinChannels := []
  autojoinKeys := {}
  reconnectEnabled := true
  reconnectBaseDelayMs := 1000
  reconnectMaximumDelayMs := 30000
  capabilityTimeoutMs := 10000
  registrationTimeoutMs := 60000
  pingTimeoutMs := 60000
  labeledResponseTimeoutMs := 45000

variable (config : SessionConfig)

/-- The SASL account: the configured one, or else the nick. -/
def saslAccountName : String := if config.saslAccount = "" then config.nick else config.saslAccount

/-- The credential SASL sends: the NickServ password, or else the server password. -/
def saslSecret : String :=
  if config.nickservPassword = "" then config.password else config.nickservPassword

/-- Whether a setting that a start needs is missing. -/
def incomplete : Bool :=
  config.networkId = "" || config.host = "" || config.port = 0 || config.nick = "" ||
    config.username = "" || config.realname = ""

end SessionConfig

/-- Why the transport is going away. -/
inductive DisconnectIntent
  | unexpected
  | stopping
  | reconnecting
  deriving DecidableEq

/-- What the session does when the transport reports a disconnect. -/
inductive DisconnectOutcome
  | scheduleReconnect
  | settleIdle
  | failUnexpected
  | finishStsUpgrade
  | ignore

/-- The lifecycle decisions of a connection. -/
structure Connection where
  intent : DisconnectIntent := .unexpected
  reconnectAttempt : Nat := 0
  reportedRetryErrors : List ErrorKind := []

namespace Connection

variable (connection : Connection)

/-- Forget the retry count and the reported kinds. -/
def resetRetries : Connection :=
  { connection with reconnectAttempt := 0, reportedRetryErrors := [] }

/-- A fresh start. -/
def beginStart : Connection := { connection with intent := .unexpected }.resetRetries

/-- The user's stop. -/
def beginStop : Connection := { connection with intent := .stopping }.resetRetries

/-- A retryable failure shut the live transport down. -/
def reconnectOnDisconnect : Connection :=
  if connection.intent = .unexpected then { connection with intent := .reconnecting }
  else connection

/-- A fatal failure shut the live transport down. -/
def endOnDisconnect : Connection := { connection with intent := .stopping }

/-- Whether the connection is ending. -/
def isStopping : Bool := connection.intent = .stopping

/-- The transport reported a disconnect in a session state. -/
def onDisconnect (state : SessionState) : Connection × DisconnectOutcome :=
  match connection.intent with
  | .reconnecting => ({ connection with intent := .unexpected }, .scheduleReconnect)
  | .stopping => (connection, if state = .closing then .settleIdle else .ignore)
  | .unexpected =>
      (connection, if state = .stsUpgrading then .finishStsUpgrade else .failUnexpected)

/-- Record that a kind is reported as retryable; true only the first time. -/
def firstReportOf (kind : ErrorKind) : Connection × Bool :=
  if connection.reportedRetryErrors.contains kind then (connection, false)
  else
    ({ connection with reportedRetryErrors := kind :: connection.reportedRetryErrors }, true)

/-- Count one more scheduled reconnect. -/
def countScheduledReconnect : Connection :=
  { connection with reconnectAttempt := connection.reconnectAttempt + 1 }

/-- Double a delay under its maximum, once for each step. -/
def doubledDelay (maximum : Nat) : Nat → Nat → Nat
  | delay, 0 => delay
  | delay, steps + 1 =>
      if delay < maximum then doubledDelay maximum (min (delay * 2) maximum) steps else delay

/-- The backoff of the current attempt, in milliseconds. -/
def nextDelay (config : SessionConfig) : Nat :=
  let base := config.reconnectBaseDelayMs
  let maximum := max config.reconnectMaximumDelayMs base
  min (doubledDelay maximum base (connection.reconnectAttempt - 1)) (2 ^ 31 - 1)

end Connection

/-- Where the ping watchdog stands. -/
inductive PingState
  | off
  | watching
  | probing
  deriving DecidableEq

/-- What an expired silence window asks for. -/
inductive PingExpiry
  | probe
  | timeout
  | nothing

/-- The token the watchdog sends and expects back. -/
def pingWatchdogToken : String := "omairc-watchdog"

namespace PingState

/-- Whether a message is the PONG of the outstanding probe. -/
def answersProbe (ping : PingState) (message : IrcMessage) : Bool :=
  ping = .probing && message.params.getLast? = some (utf8 pingWatchdogToken)

/-- Expire the silence window. -/
def expire : PingState → PingState × PingExpiry
  | watching => (probing, .probe)
  | probing => (probing, .timeout)
  | off => (off, .nothing)

end PingState

end Omairc.Session
