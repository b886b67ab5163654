import Omairc.Session.Dispatch

/-!
# The transport's callbacks and the timers

What the session does when its transport connects, encrypts, disconnects or fails,
and when one of its timers fires.
-/

namespace Omairc.Session

open Omairc.Text Omairc.Irc

namespace Core

variable (core : Core)

/-- Whether the session waits for its socket to open. -/
def awaitingSocket : Bool := core.state = .connecting || core.state = .stsUpgrading

/-- The socket is open. -/
def onConnected : Core :=
  if !core.tlsEnabled && core.awaitingSocket then core.beginCapabilityNegotiation else core

/-- The TLS handshake finished. -/
def onEncrypted : Core :=
  if core.tlsEnabled && core.awaitingSocket then core.beginCapabilityNegotiation else core

/-- The connection ended. -/
def onDisconnected : Core :=
  let (connection, outcome) := core.connection.onDisconnect core.state
  let noted := { core with connection }
  match outcome with
  | .finishStsUpgrade => noted.finishStsUpgrade
  | .scheduleReconnect => noted.rescheduleStsExpiry.scheduleReconnect
  | .settleIdle => noted.rescheduleStsExpiry.setState .idle
  | .failUnexpected =>
      noted.rescheduleStsExpiry.fail .network "Connection closed by the server" true
  | .ignore => noted.rescheduleStsExpiry

/-- How a transport failure is reported. -/
def errorKindOf : TransportErrorKind → ErrorKind
  | .tls | .certificate => .tls
  | .resolve | .network | .timeout => .network

/-- The transport failed. -/
def errorOccurred (error : TransportError) : Core :=
  if core.connection.isStopping then core
  else core.fail (errorKindOf error.kind) error.message true

/-- A timer expired. One that is not its slot's current one is ignored. -/
def timerFired (slot : TimerSlot) (id : Nat) : Core :=
  if !(core.timers slot).any fun armed => armed.id = id then core
  else
    let disarmed := core.cancelTimer slot
    match slot with
    | .reconnect => disarmed.beginReconnectAttempt
    | .capability => disarmed.onCapabilityTimeout
    | .registration => disarmed.onRegistrationTimeout
    | .ping => disarmed.onPingWatchdogFired
    | .label => disarmed.onLabelTimerFired

end Core

end Omairc.Session
