import Omairc.Session.LineChange
import Omairc.Session.Sink

/-!
# What the lifecycle operations change

The exact lifecycle part, timers and effects after a reset, a start, a stop, a
reconnect attempt and the callbacks of the transport.
-/

namespace Omairc.Session

open Omairc.Text Omairc.Irc

namespace Core

variable (core : Core)

/-! ## Connecting -/

@[simp] theorem connectTransport_toControl :
    core.connectTransport.toControl = core.toControl := rfl

@[simp] theorem connectTransport_effects :
    core.connectTransport.effects =
      core.effects ++ [.connect core.config.host core.port core.tlsEnabled] := rfl

/-- The cached policy sets the port, and turns TLS on. -/
@[simp] theorem applyCachedSts_toControl :
    core.applyCachedSts.toControl =
      { core.toControl with
        port := (core.readings.cachedSts.map StsCached.port).getD core.port
        tlsEnabled := core.tlsEnabled || core.readings.cachedSts.isSome } := by
  unfold applyCachedSts
  split
  · rename_i uncached
    simp [uncached]
  · rename_i cached found
    simp [found]

@[simp] theorem applyCachedSts_effects : core.applyCachedSts.effects = core.effects := by
  unfold applyCachedSts
  split
  all_goals rfl

/-- Between connections the handshake's ledgers are cleared; the link stays. -/
@[simp] theorem resetForConnection_toControl :
    core.resetForConnection.toControl =
      { core.toControl with
        framer := {}
        ping := .off
        caps := .new (core.config.saslSecret ≠ "")
        registrationSent := false
        registrationNick := .configured
        sasl := {}
        capabilityNegotiationEnded := false
        capabilityListSeen := false
        pendingSts := none } := by
  simp [resetForConnection]

@[simp] theorem resetForConnection_effects :
    core.resetForConnection.effects = core.effects := by
  simp [resetForConnection]

/-- The session a start or a reconnect attempt connects from. -/
def connecting (core : Core) : Core :=
  (core.applyCachedSts.resetForConnection.setState .connecting).connectTransport

/-- Connecting resets the handshake, under the cached policy, and asks for a connection. -/
theorem connecting_toControl :
    core.connecting.toControl =
      { core.toControl with
        port := (core.readings.cachedSts.map StsCached.port).getD core.port
        tlsEnabled := core.tlsEnabled || core.readings.cachedSts.isSome
        framer := {}
        ping := .off
        caps := .new (core.config.saslSecret ≠ "")
        registrationSent := false
        registrationNick := .configured
        sasl := {}
        capabilityNegotiationEnded := false
        capabilityListSeen := false
        pendingSts := none
        state := .connecting } := by
  simp [connecting]

theorem connecting_effects :
    core.connecting.effects =
      core.effects ++ [.connect core.config.host core.connecting.port core.connecting.tlsEnabled] := by
  simp [connecting]

/-- A reconnect attempt runs only from Reconnecting. -/
theorem beginReconnectAttempt_eq :
    core.beginReconnectAttempt =
      if core.state ≠ .reconnecting then core else (core.cancelTimer .reconnect).connecting := rfl

/-- The session a start takes up, before the cached policy. -/
def started (core : Core) : Core :=
  { core with
    connection := core.connection.beginStart
    port := core.config.port
    tlsEnabled := core.config.tlsEnabled
    stsDuration := none }

/-- A start runs only from Idle or Failed, and needs a complete configuration. -/
theorem start_eq :
    core.start =
      if core.state ≠ .idle ∧ core.state ≠ .failed then core
      else if core.config.incomplete then
        core.fail .registration "IRC session configuration is incomplete" false
      else core.started.connecting := rfl

/-! ## Stopping -/

/-- An expiry refresh uses up the duration the server last advertised over TLS. -/
theorem rescheduleStsExpiry_toControl :
    core.rescheduleStsExpiry.toControl =
      match core.tlsEnabled, core.stsDuration with
      | true, some duration =>
          { core.toControl with
            stsDuration := none
            stsOperations :=
              core.stsOperations ++ [.refresh core.config.host duration core.now] }
      | _, _ => core.toControl := by
  unfold rescheduleStsExpiry
  cases tls : core.tlsEnabled
  · simp
  · cases duration : core.stsDuration
    all_goals simp [tls]

@[simp] theorem rescheduleStsExpiry_timers : core.rescheduleStsExpiry.timers = core.timers := by
  unfold rescheduleStsExpiry
  repeat' split
  all_goals rfl

@[simp] theorem rescheduleStsExpiry_effects :
    core.rescheduleStsExpiry.effects = core.effects := by
  unfold rescheduleStsExpiry
  repeat' split
  all_goals rfl

/-- An expiry refresh leaves everything but the policy's bookkeeping. -/
theorem rescheduleStsExpiry_control :
    { core.rescheduleStsExpiry.toControl with
      stsDuration := core.stsDuration
      stsOperations := core.stsOperations } = core.toControl := by
  rw [rescheduleStsExpiry_toControl]
  split
  all_goals rfl

/-- The session a stop takes down, with its timers off. -/
def stopping (core : Core) : Core :=
  let refreshed := core.rescheduleStsExpiry
  let stopping := { refreshed with connection := refreshed.connection.beginStop }
  (((stopping.cancelTimer .reconnect).cancelTimer .capability).cancelTimer
    .registration).cancelPingWatchdog.clearPendingRequestLabels

theorem stop_eq :
    core.stop =
      if core.state = .idle then core.stopping
      else if core.state = .reconnecting ∨ core.state = .failed then core.stopping.setState .idle
      else ((core.stopping.setState .closing).queue .shutdown).queue .settleStop := rfl

theorem stopping_toControl :
    core.stopping.toControl =
      { core.rescheduleStsExpiry.toControl with
        connection := core.rescheduleStsExpiry.connection.beginStop
        ping := .off } := by
  simp [stopping]

@[simp] theorem stopping_effects : core.stopping.effects = core.effects := by
  simp [stopping]

/-- A stop turns every timer off. -/
@[simp] theorem stopping_timers (slot : TimerSlot) : core.stopping.timers slot = none := by
  simp only [stopping, clearPendingRequestLabels_timers]
  cases slot
  all_goals simp [cancelPingWatchdog, cancelTimer, Function.update]

/-! ## The callbacks of the transport -/

/-- What a disconnect does, by its reason and the state it finds. -/
inductive DisconnectChange (core : Core) : Core → Prop
  | upgraded (unexpected : core.connection.intent = .unexpected)
      (upgrading : core.state = .stsUpgrading) : DisconnectChange core core.finishStsUpgrade
  | retried (retrying : core.connection.intent = .reconnecting) :
      DisconnectChange core
        { core with connection.intent := .unexpected }.rescheduleStsExpiry.scheduleReconnect
  | settled (stopping : core.connection.intent = .stopping) (closing : core.state = .closing) :
      DisconnectChange core (core.rescheduleStsExpiry.setState .idle)
  | ignored (stopping : core.connection.intent = .stopping) (running : core.state ≠ .closing) :
      DisconnectChange core core.rescheduleStsExpiry
  | failed (unexpected : core.connection.intent = .unexpected)
      (settled : core.state ≠ .stsUpgrading) :
      DisconnectChange core
        (core.rescheduleStsExpiry.fail .network "Connection closed by the server" true)

theorem onDisconnected_change : DisconnectChange core core.onDisconnected := by
  unfold onDisconnected Connection.onDisconnect
  cases reason : core.connection.intent with
  | reconnecting => exact .retried reason
  | stopping =>
      by_cases closing : core.state = .closing
      · simp only
        rw [if_pos closing]
        exact .settled reason closing
      · simp only
        rw [if_neg closing]
        exact .ignored reason closing
  | unexpected =>
      by_cases upgrading : core.state = .stsUpgrading
      · simp only
        rw [if_pos upgrading]
        exact .upgraded reason upgrading
      · simp only
        rw [if_neg upgrading]
        exact .failed reason upgrading

end Core

end Omairc.Session
