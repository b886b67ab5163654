import Omairc.Session.Labels

/-!
# Connecting, failing, stopping and upgrading

The lifecycle of the session: start and stop, the two ways to fail, the reconnect
backoff, the reset between connections, the ping watchdog, and the STS upgrade with
the cached policy.
-/

namespace Omairc.Session

open Omairc.Text Omairc.Irc

namespace Core

variable (core : Core)

/-- Disarm the ping watchdog. -/
def cancelPingWatchdog : Core := { core with ping := .off }.cancelTimer .ping

/-- Restart the silence window, once registered. -/
def armPingWatchdog : Core :=
  if core.state ≠ .registered then core
  else { core with ping := .watching }.armTimer .ping (fromMillis core.config.pingTimeoutMs)

/-- Report the acknowledged capabilities when they changed. -/
def publishCapabilities : Core :=
  if core.caps.enabled = core.publishedCaps then core
  else
    { core with publishedCaps := core.caps.enabled }.emit
      (.capabilitiesChanged core.networkId core.caps.enabled)

/-- Schedule the reconnect backoff, unless reconnecting is off or under way. -/
def scheduleReconnect : Core :=
  if !core.config.reconnectEnabled then core.setState .failed
  else if core.state = .reconnecting then core
  else
    let connection := core.connection.countScheduledReconnect
    let delay := connection.nextDelay core.config
    (({ core with connection }.setState .reconnecting).armTimer .reconnect (fromMillis delay)).emit
      (.reconnectScheduled core.networkId delay connection.reconnectAttempt)

/-- What every failure does first. -/
def beginFail : Core :=
  (core.cancelTimer .registration).cancelPingWatchdog.clearPendingRequestLabels

/-- Report a retryable failure, the first time for its kind. -/
def reportRetryable (kind : ErrorKind) (message : String) : Core :=
  let (connection, first) := core.connection.firstReportOf kind
  let noted := { core with connection }
  if first then noted.emit (.errorOccurred core.networkId kind message) else noted

/-- Fail the session: with `reconnect` it retries, without it stops in Failed. -/
def fail (kind : ErrorKind) (message : String) (reconnect : Bool) : Core :=
  if reconnect then
    let reported := core.beginFail.reportRetryable kind message
    if core.transport.state.inFlight then
      { reported with connection := reported.connection.reconnectOnDisconnect }.queue .shutdown
    else reported.scheduleReconnect
  else
    let reported := core.beginFail.emit (.errorOccurred core.networkId kind message)
    (({ reported with
        connection := reported.connection.endOnDisconnect }.cancelTimer .reconnect).setState
      .failed).queue .shutdown

/-- Ask the transport to connect. -/
def connectTransport : Core := core.queue (.connect core.config.host core.port core.tlsEnabled)

/-- Apply the cached policy of the configured host: its port, and TLS. -/
def applyCachedSts : Core :=
  match core.readings.cachedSts with
  | none => core
  | some cached => { core with port := cached.port, tlsEnabled := true }

/-- Clear everything one connection learned. -/
def resetForConnection : Core :=
  let forgotten :=
    { core with
      framer := {}
      batches := {}
      history := { afterPageCap := core.history.afterPageCap }
      historyLimit := Session.historyLimit
      features := {}
      nickname := core.config.nick
      registrationSent := false
      registrationNick := .configured
      sasl := {}
      capabilityNegotiationEnded := false
      capabilityListSeen := false
      pendingSts := none
      pendingInvite := none
      pendingJoinKeys := {}
      channelTypes := "" }
  let disarmed := ((forgotten.cancelTimer .capability).cancelTimer
    .registration).cancelPingWatchdog.clearPendingRequestLabels
  { disarmed with
    caps := .new (core.config.saslSecret ≠ "")
    readMarkerToken := none
    readMarkers := { lastKnown := core.readMarkers.lastKnown }
    metadata := {}
    typing := {} }.publishCapabilities

/-- Begin the reconnect attempt that was scheduled. -/
def beginReconnectAttempt : Core :=
  if core.state ≠ .reconnecting then core
  else
    ((core.cancelTimer .reconnect).applyCachedSts.resetForConnection.setState
      .connecting).connectTransport

/-- Begin connecting. A start is ignored unless the session is Idle or Failed. -/
def start : Core :=
  if core.state ≠ .idle ∧ core.state ≠ .failed then core
  else if core.config.incomplete then
    core.fail .registration "IRC session configuration is incomplete" false
  else
    let fresh :=
      { core with
        connection := core.connection.beginStart
        port := core.config.port
        tlsEnabled := core.config.tlsEnabled
        stsDuration := none }
    (fresh.applyCachedSts.resetForConnection.setState .connecting).connectTransport

/-- Refresh the cached policy's expiry, once, for the duration last advertised over TLS. -/
def rescheduleStsExpiry : Core :=
  if !core.tlsEnabled then core
  else
    match core.stsDuration with
    | none => core
    | some duration =>
        { core with
          stsDuration := none
          stsOperations :=
            core.stsOperations ++ [.refresh core.config.host duration core.now] }

/-- Shut the session down. -/
def stop : Core :=
  let refreshed := core.rescheduleStsExpiry
  let stopping := { refreshed with connection := refreshed.connection.beginStop }
  let disarmed := (((stopping.cancelTimer .reconnect).cancelTimer .capability).cancelTimer
    .registration).cancelPingWatchdog.clearPendingRequestLabels
  if core.state = .idle then disarmed
  else if core.state = .reconnecting ∨ core.state = .failed then disarmed.setState .idle
  else ((disarmed.setState .closing).queue .shutdown).queue .settleStop

/-- Move to the upgraded port with TLS on, and shut the plaintext socket down. -/
def beginStsUpgrade (port : UInt16) : Core :=
  (({ core with port, tlsEnabled := true }.setState .stsUpgrading).emit
    (.lifecycle core.networkId .info "sts" ("Upgraded to TLS on port " ++ toString port.toNat)
      core.now)).queue .shutdown

/-- Act on an STS advertisement: upgrade a plaintext session, or keep the policy. -/
def handleStsAdvertisement (advertisement : Option StsAdvertisement) : Core :=
  match advertisement with
  | none => core
  | some advertisement =>
      if !core.tlsEnabled then
        match advertisement.port with
        | none => core
        | some port => if core.state = .stsUpgrading then core else core.beginStsUpgrade port
      else
        match advertisement.durationSeconds with
        | none => core
        | some duration =>
            if duration = 0 then
              { core with
                stsOperations := core.stsOperations ++ [.clear core.config.host]
                stsDuration := none }
            else
              { core with
                stsOperations :=
                  core.stsOperations ++ [.store core.config.host core.port duration core.now]
                stsDuration := some duration }

/-- The plaintext socket closed for the upgrade: connect again at once. -/
def finishStsUpgrade : Core := core.resetForConnection.connectTransport

/-- The silence window of the watchdog expired. -/
def onPingWatchdogFired : Core :=
  if core.state ≠ .registered then core
  else
    let (ping, expiry) := core.ping.expire
    let expired := { core with ping }
    match expiry with
    | .probe =>
        (expired.sendLine (utf8 ("PING :" ++ pingWatchdogToken) ++ crlf)).armTimer .ping
          (fromMillis core.config.pingTimeoutMs)
    | .timeout => expired.fail .network "Ping timeout" true
    | .nothing => expired

end Core

end Omairc.Session
