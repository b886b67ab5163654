import Omairc.Session.Peripheral

/-!
# What the small operations read and write

For each operation the handlers are built from: the lifecycle part, the timers and
the queued effects after it. Proofs about handlers compute with these lemmas and do
not unfold the operations.
-/

namespace Omairc.Session

open Omairc.Text Omairc.Irc

namespace Core

variable (core : Core)

@[simp] theorem emit_toControl (event : SessionEvent) :
    (core.emit event).toControl = core.toControl := rfl

@[simp] theorem emit_timers (event : SessionEvent) :
    (core.emit event).timers = core.timers := rfl

@[simp] theorem emit_effects (event : SessionEvent) :
    (core.emit event).effects = core.effects := rfl

@[simp] theorem queue_toControl (effect : Effect) :
    (core.queue effect).toControl = core.toControl := rfl

@[simp] theorem queue_timers (effect : Effect) : (core.queue effect).timers = core.timers := rfl

@[simp] theorem queue_effects (effect : Effect) :
    (core.queue effect).effects = core.effects ++ [effect] := rfl

@[simp] theorem armTimer_toControl (slot : TimerSlot) (delay : Nat) :
    (core.armTimer slot delay).toControl = core.toControl := rfl

@[simp] theorem armTimer_effects (slot : TimerSlot) (delay : Nat) :
    (core.armTimer slot delay).effects = core.effects := rfl

/-- Arming one timer leaves the others. -/
theorem armTimer_timers_of_ne {slot other : TimerSlot} (differs : other ≠ slot) (delay : Nat) :
    (core.armTimer slot delay).timers other = core.timers other :=
  Function.update_of_ne differs _ _

@[simp] theorem cancelTimer_toControl (slot : TimerSlot) :
    (core.cancelTimer slot).toControl = core.toControl := rfl

@[simp] theorem cancelTimer_effects (slot : TimerSlot) :
    (core.cancelTimer slot).effects = core.effects := rfl

/-- A cancelled timer is off. -/
@[simp] theorem cancelTimer_timers_self (slot : TimerSlot) :
    (core.cancelTimer slot).timers slot = none := Function.update_self _ _ _

/-- Cancelling one timer leaves the others. -/
theorem cancelTimer_timers_of_ne {slot other : TimerSlot} (differs : other ≠ slot) :
    (core.cancelTimer slot).timers other = core.timers other :=
  Function.update_of_ne differs _ _

/-- Cancelling never arms a timer. -/
theorem cancelTimer_timers_eq_none {slot other : TimerSlot} (off : core.timers other = none) :
    (core.cancelTimer slot).timers other = none := by
  by_cases same : other = slot
  · rw [same, cancelTimer_timers_self]
  · rw [core.cancelTimer_timers_of_ne same, off]

@[simp] theorem setState_toControl (state : SessionState) :
    (core.setState state).toControl = { core.toControl with state } := by
  unfold setState
  split
  · rename_i same
    rw [← same]
  · split
    all_goals rfl

@[simp] theorem setState_timers (state : SessionState) :
    (core.setState state).timers = core.timers := by
  unfold setState
  repeat' split
  all_goals rfl

@[simp] theorem setState_effects (state : SessionState) :
    (core.setState state).effects = core.effects := by
  unfold setState
  repeat' split
  all_goals rfl

@[simp] theorem setState_features (state : SessionState) :
    (core.setState state).features = core.features := by
  unfold setState
  repeat' split
  all_goals rfl

@[simp] theorem sendLine_toControl (built : Bytes) :
    (core.sendLine built).toControl = core.toControl := by
  unfold sendLine
  split
  all_goals rfl

@[simp] theorem sendLine_timers (built : Bytes) : (core.sendLine built).timers = core.timers := by
  unfold sendLine
  split
  all_goals rfl

@[simp] theorem sendLine_features (built : Bytes) :
    (core.sendLine built).features = core.features := by
  unfold sendLine
  split
  all_goals rfl

/-- A line that is not empty is written. -/
theorem sendLine_effects {built : Bytes} (some : built ≠ []) :
    (core.sendLine built).effects = core.effects ++ [.write built] := by
  rw [sendLine, if_neg (by simpa using some)]
  rfl

@[simp] theorem clearPendingRequestLabels_toControl :
    core.clearPendingRequestLabels.toControl = core.toControl :=
  core.clearPendingRequestLabels_peripheral.control

/-- Reporting finished labels changes the events alone. -/
theorem emitLabelsFinished_timers_effects_features (labels : List String) :
    (core.emitLabelsFinished labels).timers = core.timers ∧
      (core.emitLabelsFinished labels).effects = core.effects ∧
      (core.emitLabelsFinished labels).features = core.features := by
  unfold emitLabelsFinished
  induction labels generalizing core with
  | nil => exact ⟨rfl, rfl, rfl⟩
  | cons label rest inductionHypothesis => exact inductionHypothesis (core.emit _)

@[simp] theorem clearPendingRequestLabels_timers :
    core.clearPendingRequestLabels.timers = Function.update core.timers .label none :=
  (emitLabelsFinished_timers_effects_features _ _).1

@[simp] theorem clearPendingRequestLabels_effects :
    core.clearPendingRequestLabels.effects = core.effects :=
  (emitLabelsFinished_timers_effects_features _ _).2.1

@[simp] theorem clearPendingRequestLabels_features :
    core.clearPendingRequestLabels.features = core.features :=
  (emitLabelsFinished_timers_effects_features _ _).2.2

@[simp] theorem cancelPingWatchdog_toControl :
    core.cancelPingWatchdog.toControl = { core.toControl with ping := .off } := rfl

@[simp] theorem cancelPingWatchdog_effects : core.cancelPingWatchdog.effects = core.effects := rfl

@[simp] theorem publishCapabilities_toControl :
    core.publishCapabilities.toControl = core.toControl := by
  unfold publishCapabilities
  split
  all_goals rfl

@[simp] theorem publishCapabilities_timers : core.publishCapabilities.timers = core.timers := by
  unfold publishCapabilities
  split
  all_goals rfl

@[simp] theorem publishCapabilities_effects :
    core.publishCapabilities.effects = core.effects := by
  unfold publishCapabilities
  split
  all_goals rfl

theorem publishCapabilities_peripheral : Peripheral IsFrame core core.publishCapabilities :=
  .of_eq (by simp) (by simp) (by simp)

/-- The watchdog restarts only while registered, and moves nothing but itself. -/
theorem armPingWatchdog_toControl :
    core.armPingWatchdog.toControl = core.toControl ∨
      core.state = .registered ∧
        core.armPingWatchdog.toControl = { core.toControl with ping := .watching } := by
  unfold armPingWatchdog
  split
  · exact .inl rfl
  · rename_i registered
    exact .inr ⟨not_not.mp registered, rfl⟩

@[simp] theorem armPingWatchdog_effects : core.armPingWatchdog.effects = core.effects := by
  unfold armPingWatchdog
  split
  all_goals rfl

/-- Restarting the watchdog leaves the other timers. -/
theorem armPingWatchdog_timers {slot : TimerSlot} (other : slot ≠ .ping) :
    core.armPingWatchdog.timers slot = core.timers slot := by
  unfold armPingWatchdog
  split
  · rfl
  · exact Function.update_of_ne other _ _

end Core

end Omairc.Session
