import Omairc.Net.Wire

/-!
# The socket transport

The UI-side half of one connection: its lifecycle, its epoch and the sink it reports
to. Each connect and each shutdown moves the epoch on, so an event from an abandoned
connection fails the epoch check and is dropped.
-/

namespace Omairc.Net

open Omairc.Text Omairc.Session

/-- The mutable state of a transport. The sink is a weak reference: it is there once
`set_sink` gave one and as long as its owner lives. -/
structure Inner where
  state : ConnectionState := .idle
  epoch : Nat := 0
  tlsOn : Bool := false
  sink : Bool := false

/-- The sink call an event produced, with its payload. -/
inductive Notice
  | connected
  | encrypted
  | bytes (received : Bytes)
  | disconnected
  | error (error : TransportError)
  deriving DecidableEq

/-- Move the lifecycle for one event and say what to report. There is no notice when
the event does not apply in this state. -/
def transition (inner : Inner) (event : IoEvent) : Option (Notice × Inner) :=
  match event with
  | .connected =>
      if inner.state = .connecting then
        some (.connected, { inner with state := .connected })
      else none
  | .encrypted =>
      if inner.state = .connected ∧ inner.tlsOn = true then
        some (.encrypted, { inner with state := .encrypted })
      else none
  | .bytes received =>
      if inner.state.isOpen then some (.bytes received, inner) else none
  | .closed =>
      if inner.state.isOpen then
        some (.disconnected, { inner with state := .disconnected })
      else none
  -- The first failure is the one reported; a failed transport takes no more.
  | .failed error =>
      if inner.state.inFlight then
        some (.error error, { inner with state := .failed })
      else none

/-- Apply one event from the net thread: one of an older epoch is dropped, and so is
one that does not fit the current state. -/
def Inner.apply (inner : Inner) (epoch : Nat) (event : IoEvent) : Option (Notice × Inner) :=
  if inner.epoch ≠ epoch then none else transition inner event

/-- Start a connect under the next epoch. It is ignored while one is in flight. -/
def Inner.connect (inner : Inner) (tlsEnabled : Bool) : Option Inner :=
  if inner.state.inFlight then none
  else some { inner with
    epoch := inner.epoch + 1, state := .connecting, tlsOn := tlsEnabled }

/-- Abandon the connect or close the open pipe. It does nothing once the transport has
finished. -/
def Inner.shutdown (inner : Inner) : Option Inner :=
  match inner.state with
  | .idle | .disconnected | .failed | .closing => none
  | _ => some { inner with epoch := inner.epoch + 1, state := .disconnected }

/-- An event never moves the epoch, the kind of connection or the sink. -/
theorem transition_frame {inner next : Inner} {event : IoEvent} {notice : Notice}
    (moved : transition inner event = some (notice, next)) :
    next.epoch = inner.epoch ∧ next.tlsOn = inner.tlsOn ∧ next.sink = inner.sink := by
  cases event <;> simp only [transition] at moved <;> split at moved <;> cases moved <;>
    exact ⟨rfl, rfl, rfl⟩

/-- What an applied event was. -/
theorem Inner.apply_eq_some {inner next : Inner} {epoch : Nat} {event : IoEvent}
    {notice : Notice} (applied : inner.apply epoch event = some (notice, next)) :
    inner.epoch = epoch ∧ transition inner event = some (notice, next) := by
  rw [Inner.apply] at applied
  split at applied
  · cases applied
  · rename_i current
    exact ⟨not_not.mp current, applied⟩

/-- What a connect that is not ignored does. -/
theorem Inner.connect_eq_some {inner next : Inner} {tlsEnabled : Bool}
    (connected : inner.connect tlsEnabled = some next) :
    inner.state.inFlight = false ∧ next = { inner with
      epoch := inner.epoch + 1, state := .connecting, tlsOn := tlsEnabled } := by
  rw [Inner.connect] at connected
  split at connected
  · cases connected
  · rename_i finished
    cases connected
    exact ⟨eq_false_of_ne_true finished, rfl⟩

/-- What a shutdown that does something does: the transport was in flight. -/
theorem Inner.shutdown_eq_some {inner next : Inner} (down : inner.shutdown = some next) :
    inner.state.inFlight = true ∧
      next = { inner with epoch := inner.epoch + 1, state := .disconnected } := by
  unfold Inner.shutdown at down
  cases state : inner.state <;> rw [state] at down <;> cases down <;> exact ⟨rfl, rfl⟩

end Omairc.Net
