import Omairc.Session.Projections

/-!
# How a session fails

The exact effect of `fail` on the lifecycle: a fatal failure ends in Failed with the
transport shut down and its own timers off; a retryable one shuts a connection in
flight down, and schedules the reconnect when there is none.
-/

namespace Omairc.Session

open Omairc.Text Omairc.Irc

namespace Core

variable (core : Core)

@[simp] theorem beginFail_toControl :
    core.beginFail.toControl = { core.toControl with ping := .off } := by simp [beginFail]

@[simp] theorem beginFail_effects : core.beginFail.effects = core.effects := by simp [beginFail]

/-- Reporting a retryable failure notes its kind. -/
@[simp] theorem reportRetryable_toControl (kind : ErrorKind) (message : String) :
    (core.reportRetryable kind message).toControl =
      { core.toControl with connection := (core.connection.firstReportOf kind).1 } := by
  unfold reportRetryable
  simp only
  split
  all_goals rfl

@[simp] theorem reportRetryable_timers (kind : ErrorKind) (message : String) :
    (core.reportRetryable kind message).timers = core.timers := by
  unfold reportRetryable
  simp only
  split
  all_goals rfl

@[simp] theorem reportRetryable_effects (kind : ErrorKind) (message : String) :
    (core.reportRetryable kind message).effects = core.effects := by
  unfold reportRetryable
  simp only
  split
  all_goals rfl

/-! ## Fatal failures -/

variable (kind : ErrorKind) (message : String)

@[simp] theorem fail_fatal_toControl :
    (core.fail kind message false).toControl =
      { core.toControl with
        ping := .off
        connection := core.connection.endOnDisconnect
        state := .failed } := by
  simp [fail]

@[simp] theorem fail_fatal_effects :
    (core.fail kind message false).effects = core.effects ++ [.shutdown] := by
  simp [fail]

/-! ## Retryable failures -/

/-- A retryable failure with a connection in flight shuts it down. -/
theorem fail_retry_inFlight_toControl (inFlight : core.transport.state.inFlight = true) :
    (core.fail kind message true).toControl =
      { core.toControl with
        ping := .off
        connection := (core.connection.firstReportOf kind).1.reconnectOnDisconnect } := by
  simp [fail, inFlight]

theorem fail_retry_inFlight_effects (inFlight : core.transport.state.inFlight = true) :
    (core.fail kind message true).effects = core.effects ++ [.shutdown] := by
  simp [fail, inFlight]

/-- A retryable failure without one schedules the reconnect. -/
theorem fail_retry_idle (idle : core.transport.state.inFlight = false) :
    core.fail kind message true = (core.beginFail.reportRetryable kind message).scheduleReconnect := by
  simp [fail, idle]

/-! ## The reconnect backoff -/

/-- Scheduling a reconnect ends in Failed when reconnecting is off, and in Reconnecting
otherwise. It queues nothing. -/
theorem scheduleReconnect_toControl :
    core.scheduleReconnect.toControl =
      if core.config.reconnectEnabled = false then { core.toControl with state := .failed }
      else if core.state = .reconnecting then core.toControl
      else
        { core.toControl with
          connection := core.connection.countScheduledReconnect
          state := .reconnecting } := by
  unfold scheduleReconnect
  split_ifs
  all_goals simp_all

@[simp] theorem scheduleReconnect_effects : core.scheduleReconnect.effects = core.effects := by
  unfold scheduleReconnect
  split_ifs
  all_goals simp

end Core

end Omairc.Session
