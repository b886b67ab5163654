import Omairc.Session.Steps

/-!
# What each entry point queues

The lines of a read and the features queue frames and shutdowns. A connect is queued
by a start, a reconnect attempt and the end of an STS upgrade alone.
-/

namespace Omairc.Session

open Omairc.Text Omairc.Irc

/-- A frame to write or a shutdown. -/
def Effect.IsPlain : Effect → Prop
  | .write frame => IsFrame frame
  | .shutdown => True
  | .connect _ _ _ | .settleStop => False

/-- What is queued to write is one frame. -/
def Effect.IsFramed : Effect → Prop
  | .write frame => IsFrame frame
  | _ => True

theorem Effect.IsPlain.isFramed {effect : Effect} (plain : effect.IsPlain) : effect.IsFramed := by
  cases effect
  all_goals first
    | exact plain
    | trivial

/-- The change appended allowed effects to the queue. -/
def Queues (Allowed : Effect → Prop) (core changed : Core) : Prop :=
  ∃ fresh, changed.effects = core.effects ++ fresh ∧ ∀ effect ∈ fresh, Allowed effect

namespace Queues

variable {Allowed : Effect → Prop} {core middle changed : Core}

theorem of_eq (same : changed.effects = core.effects) : Queues Allowed core changed :=
  ⟨[], by simp [same], by simp⟩

theorem refl (core : Core) : Queues Allowed core core := of_eq rfl

/-- Appending one allowed effect. -/
theorem single (effect : Effect) (queued : changed.effects = core.effects ++ [effect])
    (allowed : Allowed effect) : Queues Allowed core changed :=
  ⟨[effect], queued, by simpa using allowed⟩

theorem trans (first : Queues Allowed core middle) (second : Queues Allowed middle changed) :
    Queues Allowed core changed := by
  obtain ⟨front, frontQueued, frontAllowed⟩ := first
  obtain ⟨back, backQueued, backAllowed⟩ := second
  refine ⟨front ++ back, by rw [backQueued, frontQueued, List.append_assoc], fun effect queued => ?_⟩
  rcases List.mem_append.mp queued with early | late
  · exact frontAllowed effect early
  · exact backAllowed effect late

theorem mono {Weaker : Effect → Prop} (weaker : ∀ effect, Allowed effect → Weaker effect)
    (change : Queues Allowed core changed) : Queues Weaker core changed := by
  obtain ⟨fresh, queued, allowed⟩ := change
  exact ⟨fresh, queued, fun effect present => weaker effect (allowed effect present)⟩

/-- Writing frames. -/
theorem of_frames {frames : List Bytes}
    (queued : changed.effects = core.effects ++ queuedWrites frames)
    (framed : ∀ frame ∈ frames, IsFrame frame) : Queues Effect.IsPlain core changed := by
  refine ⟨queuedWrites frames, queued, fun effect present => ?_⟩
  obtain ⟨frame, within, rfl⟩ := List.mem_map.mp present
  exact framed frame within

theorem of_peripheral (change : Peripheral IsFrame core changed) :
    Queues Effect.IsPlain core changed := by
  obtain ⟨frames, queued, framed, -⟩ := change.writes
  exact of_frames queued framed

theorem of_negotiated (change : Negotiated core changed) : Queues Effect.IsPlain core changed := by
  obtain ⟨frames, queued, framed⟩ := change.writes
  exact of_frames queued framed

end Queues

namespace Core

variable (core : Core)

/-- A failure queues at most a shutdown. -/
theorem fail_queues (kind : ErrorKind) (message : String) (reconnect : Bool) :
    Queues Effect.IsPlain core (core.fail kind message reconnect) := by
  cases reconnect with
  | false => exact .single .shutdown (core.fail_fatal_effects kind message) trivial
  | true =>
      by_cases inFlight : core.transport.state.inFlight = true
      · exact .single .shutdown (core.fail_retry_inFlight_effects kind message inFlight) trivial
      · rw [core.fail_retry_idle kind message (by simpa using inFlight)]
        exact .of_eq (by simp)

theorem handshake_queues {changed : Core} (change : Handshake core changed) :
    Queues Effect.IsPlain core changed := by
  cases change with
  | proceeds change => exact .of_negotiated change
  | fails change kind text => exact (Queues.of_negotiated change).trans (fail_queues _ kind text false)

/-- Connecting queues one connect, under the port and the TLS of the session. -/
theorem connecting_queues : Queues Effect.IsFramed core core.connecting :=
  .single _ core.connecting_effects trivial

theorem beginReconnectAttempt_queues : Queues Effect.IsFramed core core.beginReconnectAttempt := by
  rw [beginReconnectAttempt_eq]
  split
  · exact .refl core
  · refine Queues.trans ?_ (connecting_queues _)
    exact .of_eq rfl

theorem start_queues : Queues Effect.IsFramed core core.start := by
  rw [start_eq]
  split_ifs
  · exact .refl core
  · exact (core.fail_queues _ _ _).mono fun _ => Effect.IsPlain.isFramed
  · exact connecting_queues core.started

/-- A stop queues a shutdown and its settling, and nothing else. -/
theorem stop_queues :
    Queues (fun effect => effect = .shutdown ∨ effect = .settleStop) core core.stop := by
  rw [stop_eq]
  split_ifs
  · exact .of_eq (by simp)
  · exact .of_eq (by simp)
  · exact ⟨[.shutdown, .settleStop], by simp, by simp⟩

/-- A disconnect queues at most a connect, at the end of an upgrade, or a shutdown. -/
theorem onDisconnected_queues : Queues Effect.IsFramed core core.onDisconnected := by
  have change := core.onDisconnected_change
  revert change
  generalize core.onDisconnected = changed
  intro change
  cases change with
  | upgraded unexpected upgrading =>
      exact .single (.connect core.config.host core.port core.tlsEnabled)
        (by simp [finishStsUpgrade]) trivial
  | retried retrying => exact .of_eq (by simp)
  | settled stopping closing => exact .of_eq (by simp)
  | ignored stopping running => exact .of_eq (by simp)
  | failed unexpected settled =>
      refine Queues.trans (.of_eq core.rescheduleStsExpiry_effects) ?_
      exact (fail_queues _ _ _ _).mono fun _ => Effect.IsPlain.isFramed

theorem beginCapabilityNegotiation_queues :
    Queues Effect.IsPlain core core.beginCapabilityNegotiation := by
  have frame : IsFrame (utf8 "CAP LS 302" ++ crlf) := isFrame_append_crlf (by decide)
  refine .single (.write (utf8 "CAP LS 302" ++ crlf)) ?_ frame
  simp [beginCapabilityNegotiation, sendLine_effects _ (ne_nil_of_isFrame frame)]

theorem onPingWatchdogFired_queues : Queues Effect.IsPlain core core.onPingWatchdogFired := by
  have frame : IsFrame (utf8 ("PING :" ++ pingWatchdogToken) ++ crlf) :=
    isFrame_append_crlf (by decide)
  unfold onPingWatchdogFired
  simp only
  repeat' split
  · exact .refl core
  · refine .single (.write (utf8 ("PING :" ++ pingWatchdogToken) ++ crlf)) ?_ frame
    rw [armTimer_effects, sendLine_effects _ (ne_nil_of_isFrame frame)]
  · refine Queues.trans ?_ (fail_queues _ _ _ _)
    exact .of_eq rfl
  · exact .of_eq rfl

theorem onRegistrationTimeout_queues : Queues Effect.IsPlain core core.onRegistrationTimeout := by
  unfold onRegistrationTimeout
  split
  · exact .refl core
  · exact core.fail_queues _ _ _

theorem errorOccurred_queues (error : TransportError) :
    Queues Effect.IsPlain core (core.errorOccurred error) := by
  unfold errorOccurred
  split
  · exact .refl core
  · exact core.fail_queues _ _ _

/-- A timer queues frames and shutdowns, but for the reconnect timer, which connects. -/
theorem timerFired_queues (slot : TimerSlot) (id : Nat) :
    Queues Effect.IsFramed core (core.timerFired slot id) := by
  have disarmed : Queues Effect.IsFramed core (core.cancelTimer slot) := .of_eq rfl
  have plain {changed : Core} (change : Queues Effect.IsPlain (core.cancelTimer slot) changed) :
      Queues Effect.IsFramed core changed :=
    disarmed.trans (change.mono fun _ => Effect.IsPlain.isFramed)
  unfold timerFired
  split
  · exact .refl core
  · cases slot with
    | reconnect => exact disarmed.trans (beginReconnectAttempt_queues _)
    | capability => exact plain (.of_negotiated (onCapabilityTimeout_negotiated _))
    | registration => exact plain (onRegistrationTimeout_queues _)
    | ping => exact plain (onPingWatchdogFired_queues _)
    | label => exact plain (.of_peripheral (onLabelTimerFired_peripheral _))

variable [Platform]

theorem handleFrame_queues (frame : Bytes) (settled : core.state ≠ .stsUpgrading) :
    Queues Effect.IsPlain core (core.handleFrame frame) := by
  have change := core.handleFrame_change frame settled
  revert change
  generalize core.handleFrame frame = changed
  intro change
  cases change with
  | handshake change => exact core.handshake_queues change
  | settles taken command silent sts change =>
      exact Queues.trans (.of_eq sts.effects) (handshake_queues _ change)
  | upgrades taken command advertised upgrade => exact .single .shutdown upgrade.effects trivial
  | watchdog => exact .of_eq (by simp [reportInbound])
  | welcomes taken command running settled welcome =>
      obtain ⟨frames, queued, framed⟩ := welcome.writes
      exact .of_frames queued framed
  | retries text finished =>
      refine Queues.trans ?_ (fail_queues _ _ _ _)
      exact .of_eq rfl

end Core

namespace System

variable {Allowed : Effect → Prop}

theorem dispatchEffects_pending (core : Core) (left : List Effect) :
    (dispatchEffects core left).pending = core.effects ++ left := rfl

/-- What a queueing change of a session that queued nothing hands over is allowed. -/
theorem allowed_of_queues {core changed : Core} (quiet : core.effects = [])
    (change : Queues Allowed core changed) : ∀ effect ∈ changed.effects, Allowed effect := by
  obtain ⟨fresh, queued, allowed⟩ := change
  rw [queued, quiet, List.nil_append]
  exact allowed

variable [Platform] {system next : System} {core : Core} {action : Action}

/-- An effect that waits after a step waited before it, or was allowed when an entry, a
line or a disconnect queued it. -/
theorem StepOutcome.pending (Allowed : Effect → Prop)
    (outcome : StepOutcome system core action next) (same : core.effects = system.core.effects) (shutdown : Allowed .shutdown)
    (entries : ∀ entered, Entry core action entered → Queues Allowed core entered)
    (lines : ∀ frame, action = .handleLine → core.state ≠ .stsUpgrading →
      system.reading.head? = some frame → Queues Allowed core (core.handleFrame frame))
    (disconnects : action = .perform → core.transport.state.shutsDown = true →
      Queues Allowed core
        (core.withTransport { core.transport with state := .disconnected }).onDisconnected) :
    ∀ effect ∈ next.pending, effect ∈ system.pending ∨ Allowed effect := by
  have kept {effect : Effect} (queued : effect ∈ core.effects) : effect ∈ system.pending :=
    List.mem_append_left _ (same ▸ queued)
  intro effect waits
  cases outcome with
  | enters quiet resting entry =>
      rw [dispatchEffects_pending, List.append_nil] at waits
      exact .inr (allowed_of_queues quiet (entries _ entry) effect waits)
  | shuts quiet resting =>
      rw [System.pending, quiet] at waits
      obtain rfl := List.mem_singleton.mp waits
      exact .inr shutdown
  | reads quiet resting delivers frames =>
      rw [System.pending, (beginRead_begun core _).effects, quiet] at waits
      cases waits
  | drops reading resting delivers upgrading =>
      rw [dispatchEffects_pending, List.append_nil] at waits
      exact .inl (kept waits)
  | @handles frame rest reading resting delivers settled more =>
      obtain ⟨fresh, queued, allowed⟩ := lines frame rfl settled (by rw [reading]; rfl)
      rw [System.pending, List.append_nil, queued] at waits
      rcases List.mem_append.mp waits with earlier | added
      · exact .inl (kept earlier)
      · exact .inr (allowed effect added)
  | @finishes frame reading resting delivers settled =>
      obtain ⟨fresh, queued, allowed⟩ := lines frame rfl settled (by rw [reading]; rfl)
      rw [dispatchEffects_pending, List.append_nil, queued] at waits
      rcases List.mem_append.mp waits with earlier | added
      · exact .inl (kept earlier)
      · exact .inr (allowed effect added)
  | @performs performed left quiet read running =>
      have later {effect : Effect} (waiting : effect ∈ left) : effect ∈ system.pending := by
        rw [System.pending, running]
        exact List.mem_append_right _ (List.mem_cons_of_mem _ waiting)
      cases performed with
      | write frame =>
          simp only [performEffect, System.pending, quiet, List.nil_append] at waits
          exact .inl (later waits)
      | connect host port tls =>
          unfold performEffect at waits
          simp only at waits
          split at waits
          all_goals
            simp only [System.pending, Core.withTransport, quiet, List.nil_append] at waits
            exact .inl (later waits)
      | shutdown =>
          unfold performEffect at waits
          simp only at waits
          split at waits
          · rename_i live
            rw [dispatchEffects_pending] at waits
            rcases List.mem_append.mp waits with added | waiting
            · exact .inr (allowed_of_queues quiet (disconnects rfl live) effect added)
            · exact .inl (later waiting)
          · simp only [System.pending, quiet, List.nil_append] at waits
            exact .inl (later waits)
      | settleStop =>
          unfold performEffect at waits
          simp only at waits
          split at waits
          · rw [dispatchEffects_pending, Core.setState_effects, quiet, List.nil_append] at waits
            exact .inl (later waits)
          · simp only [System.pending, quiet, List.nil_append] at waits
            exact .inl (later waits)

end System

end Omairc.Session
