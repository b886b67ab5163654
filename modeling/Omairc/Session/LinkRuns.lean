import Omairc.Session.LinkMoves
import Omairc.Session.Reference

/-!
# The link over whole runs

A session waits for one connection at a time, and with TLS on no line is handled in the clear.
TLS stays on until the next start, a policy is kept only by a line that was heard over TLS, and
after a stop nothing but the shutdown is left to do.
-/

namespace Omairc.Session

open Omairc.Text Omairc.Irc

/-- What a step does to the policies and to TLS: only a start turns TLS off, or leaves the port for
another than that of a cached policy. -/
structure PolicyStep (action : Action) (heard : Prop) (core changed : Core) : Prop where
  policies : PolicyMove heard core changed
  secure : action ≠ .start → core.tlsEnabled = true → changed.tlsEnabled = true ∧
    (changed.port = core.port ∨
      ∃ cached, core.readings.cachedSts = some cached ∧ changed.port = cached.port)

namespace PolicyStep

variable {action : Action} {heard : Prop} {core changed start final : Core}

theorem of_same (same : final.policies = start.policies) : PolicyStep action heard start final where
  policies := .kept (congrArg Policies.stsOperations same)
    (.inl (congrArg Policies.stsDuration same))
  secure _ secure := ⟨(congrArg Policies.tlsEnabled same :).trans secure,
    .inl (congrArg Policies.port same)⟩

theorem of_move (move : LinkMove core action changed) (before : core.policies = start.policies)
    (after : changed.policies = final.policies) : PolicyStep action heard start final where
  policies := move.policies.transfer before after fun line => line.elim
  secure going secure := by
    have tls : changed.tlsEnabled = final.tlsEnabled := congrArg Policies.tlsEnabled after
    have port : changed.port = final.port := congrArg Policies.port after
    have portBefore : core.port = start.port := congrArg Policies.port before
    have cached : core.readings.cachedSts = start.readings.cachedSts :=
      congrArg (fun policies => policies.readings.cachedSts) before
    rw [← tls, ← port, ← portBefore, ← cached]
    exact move.keeps_tls going ((congrArg Policies.tlsEnabled before :).trans secure)

/-- A line on a connection that is encrypted when TLS is on. -/
theorem of_line (move : LinkKept True start changed ∨ ∃ port, Upgraded start port changed)
    (after : changed.policies = final.policies) (encrypted : start.tlsEnabled = true → heard) :
    PolicyStep action heard start final := by
  have tls : final.tlsEnabled = changed.tlsEnabled := (congrArg Policies.tlsEnabled after :).symm
  rcases move with kept | ⟨offered, upgrade⟩
  · refine ⟨kept.policies.transfer rfl after fun _ => encrypted, fun _ secure => ⟨?_, .inl ?_⟩⟩
    · exact tls.trans (kept.tls.trans secure)
    · exact (congrArg Policies.port after :).symm.trans kept.port
  · refine ⟨.kept ?_ (.inl ?_), fun _ secure => ?_⟩
    · exact (congrArg Policies.stsOperations after :).symm.trans
        (congrArg Link.stsOperations upgrade.link)
    · exact (congrArg Policies.stsDuration after :).symm.trans
        (congrArg Link.stsDuration upgrade.link)
    · exact absurd (upgrade.plaintext.symm.trans secure) Bool.false_ne_true

end PolicyStep

/-- The host that an operation is about. -/
def StsOperation.host : StsOperation → String
  | .store host _ _ _ | .refresh host _ _ | .clear host => host

/-- What a session asked of the policy cache. The policy it holds is the one it stored last, and a
refresh repeats the store right before it. -/
structure PolicyLog (host : String) (operations : List StsOperation) (held : Option Int) :
    Prop where
  own : ∀ operation ∈ operations, StsOperation.host operation = host
  held : ∀ duration, held = some duration → ∃ earlier port stored,
    operations = earlier ++ [.store host port duration stored]
  refreshes : ∀ before duration now after,
    operations = before ++ .refresh host duration now :: after →
      ∃ earlier port stored, before = earlier ++ [.store host port duration stored]

namespace PolicyLog

variable {host : String} {operations : List StsOperation} {held : Option Int}

theorem append (log : PolicyLog host operations held) (operation : StsOperation)
    (own : StsOperation.host operation = host) (next : Option Int)
    (keeps : ∀ duration, next = some duration → ∃ port stored,
      operation = .store host port duration stored)
    (refreshes : ∀ duration now, operation = .refresh host duration now →
      held = some duration) : PolicyLog host (operations ++ [operation]) next where
  own listed within := by
    rcases List.mem_append.mp within with before | added
    · exact log.own listed before
    · rw [List.mem_singleton.mp added]
      exact own
  held duration holds := by
    obtain ⟨port, stored, rfl⟩ := keeps duration holds
    exact ⟨operations, port, stored, rfl⟩
  refreshes before duration now after split := by
    rcases List.append_eq_append_iff.mp split with ⟨extra, front, back⟩ | ⟨extra, front, back⟩
    · cases extra with
      | nil =>
          rw [List.nil_append, List.cons.injEq] at back
          rw [front, List.append_nil]
          exact log.held duration (refreshes duration now back.1)
      | cons first rest =>
          rw [List.cons_append, List.cons.injEq] at back
          exact absurd back.2.symm (by simp)
    · cases extra with
      | nil =>
          rw [List.nil_append, List.cons.injEq] at back
          rw [List.append_nil] at front
          rw [← front]
          exact log.held duration (refreshes duration now back.1.symm)
      | cons first rest =>
          rw [List.cons_append, List.cons.injEq] at back
          rw [← back.1] at front
          exact log.refreshes before duration now rest front

theorem drop (log : PolicyLog host operations held) : PolicyLog host operations none where
  own := log.own
  held := nofun
  refreshes := log.refreshes

end PolicyLog

namespace System

/-- What holds of the link in every reachable system. A connection that is asked for is the next
transport call, a session at rest shuts down what is in flight, and what is in flight is on TLS
exactly as the session is, unless it is being given up for TLS. -/
structure Linked (config : SessionConfig) (system : System) : Prop where
  orderly : system.Orderly
  configured : system.core.config = config
  waits : (∀ effect ∈ system.pending, ¬effect.IsConnect) ∨
    ∃ left, system.pending =
        .connect config.host system.core.port system.core.tlsEnabled :: left ∧
      (∀ effect ∈ left, ¬effect.IsConnect) ∧ system.core.state.rests = false ∧
      system.reading = []
  rested : system.core.state.rests = true → system.core.transport.state.inFlight = true →
    .shutdown ∈ system.pending
  secured : system.core.transport.state.inFlight = true →
    system.core.transport.tlsOn = system.core.tlsEnabled ∨
      (system.core.tlsEnabled = true ∧ .shutdown ∈ system.pending ∧
        (system.reading ≠ [] → system.core.state = .stsUpgrading))
  settled : system.core.transport.state ≠ .closing

variable {system : System}

/-- A shutdown of what is not in flight does nothing. -/
theorem performEffect_shutdown_of_idle (core : Core)
    (idle : core.transport.state.inFlight = false) (left : List Effect) :
    performEffect core .shutdown left = { core, running := left } := by
  have gone : core.transport.state.shutsDown = false := by
    revert idle
    cases core.transport.state <;> simp [ConnectionState.inFlight, ConnectionState.shutsDown]
  simp [performEffect, gone]

/-- A shutdown of what is in flight reports its disconnect. -/
theorem performEffect_shutdown_of_inFlight (core : Core)
    (settled : core.transport.state ≠ .closing) (inFlight : core.transport.state.inFlight = true)
    (left : List Effect) :
    performEffect core .shutdown left =
      dispatchEffects (core.withTransport
        { core.transport with state := .disconnected }).onDisconnected left := by
  have live : core.transport.state.shutsDown = true := by
    revert inFlight settled
    cases core.transport.state <;> simp [ConnectionState.inFlight, ConnectionState.shutsDown]
  simp [performEffect, live]

/-- Without a connection a stop settles. -/
theorem performEffect_settleStop_of_idle (core : Core)
    (idle : core.transport.state.inFlight = false) (left : List Effect) :
    performEffect core .settleStop left = dispatchEffects (core.setState .idle) left := by
  have finished : core.transport.state.finished = true := by
    revert idle
    cases core.transport.state <;> simp [ConnectionState.inFlight, ConnectionState.finished]
  simp [performEffect, finished]

/-- In front of a connection in flight nothing settles. -/
theorem performEffect_settleStop_of_inFlight (core : Core)
    (inFlight : core.transport.state.inFlight = true) (left : List Effect) :
    performEffect core .settleStop left = { core, running := left } := by
  have unfinished : core.transport.state.finished = false := by
    revert inFlight
    cases core.transport.state <;> simp [ConnectionState.inFlight, ConnectionState.finished]
  simp [performEffect, unfinished]

/-- Of what is pending only the running calls are left. -/
theorem pending_of_quiet (quiet : system.core.effects = []) : system.pending = system.running := by
  rw [System.pending, quiet, List.nil_append]

namespace Linked

variable {config : SessionConfig} {next : System} {core changed : Core} {action : Action}

theorem initial : (System.initial config).Linked config where
  orderly := ⟨fun _ => rfl, fun reads => absurd rfl reads⟩
  configured := rfl
  waits := .inl fun _ waiting => absurd waiting List.not_mem_nil
  rested := fun _ => nofun
  secured := nofun
  settled := nofun

/-- Outside the session's own work nothing is in flight at rest, and TLS is as the session is. -/
theorem of_silent (linked : system.Linked config) (silent : system.pending = []) :
    (system.core.state.rests = true → system.core.transport.state.inFlight = false) ∧
      (system.core.transport.state.inFlight = true →
        system.core.transport.tlsOn = system.core.tlsEnabled) := by
  have unshut : .shutdown ∉ system.pending := by rw [silent]; exact List.not_mem_nil
  refine ⟨fun resting => ?_, fun inFlight => ?_⟩
  · rw [← Bool.not_eq_true]
    exact fun inFlight => unshut (linked.rested resting inFlight)
  · exact (linked.secured inFlight).resolve_right fun given => unshut given.2.1

/-- While a line is read no connection is asked for. -/
theorem free_of_reads (linked : system.Linked config) (reads : system.reading ≠ []) :
    ∀ effect ∈ system.pending, ¬effect.IsConnect :=
  linked.waits.resolve_right fun ⟨_, _, _, _, silent⟩ => reads silent

/-- What leaves the link and the state, and drops no shutdown of what is in flight. -/
theorem of_same (linked : system.Linked config) (orderly : next.Orderly)
    (sameConfig : next.core.config = system.core.config)
    (transport : next.core.transport = system.core.transport)
    (tls : next.core.tlsEnabled = system.core.tlsEnabled)
    (state : next.core.state = system.core.state)
    (free : ∀ effect ∈ next.pending, ¬effect.IsConnect)
    (shuts : system.core.transport.state.inFlight = true → .shutdown ∈ system.pending →
      .shutdown ∈ next.pending)
    (reading : next.reading = [] ∨ system.pending = []) : next.Linked config where
  orderly := orderly
  configured := sameConfig.trans linked.configured
  waits := .inl free
  rested := by
    rw [state, transport]
    exact fun resting inFlight => shuts inFlight (linked.rested resting inFlight)
  secured := by
    rw [transport, tls, state]
    intro inFlight
    rcases linked.secured inFlight with same | ⟨secure, shut, -⟩
    · exact .inl same
    · refine .inr ⟨secure, shuts inFlight shut, fun reads => ?_⟩
      rcases reading with gone | silent
      · exact absurd gone reads
      · rw [silent] at shut
        cases shut
  settled := by
    rw [transport]
    exact linked.settled

/-- What an entry or a disconnect hands over. -/
theorem dispatch (move : LinkMove core action changed) (same : core.config = config)
    (settled : core.transport.state ≠ .closing) (quiet : core.effects = [])
    (rested : core.state.rests = true → core.transport.state.inFlight = false)
    (secured : core.transport.state.inFlight = true → core.transport.tlsOn = core.tlsEnabled)
    {left : List Effect} (free : ∀ effect ∈ left, ¬effect.IsConnect) :
    (dispatchEffects changed left).Linked config := by
  have orderly : (dispatchEffects changed left).Orderly :=
    ⟨fun _ => rfl, fun reads => absurd rfl reads⟩
  cases move with
  | stays kept =>
      refine
        { orderly := orderly
          configured := kept.config.trans same
          waits := .inl fun effect waiting => ?_
          rested := fun resting inFlight => ?_
          secured := fun inFlight => .inl ?_
          settled := ?_ }
      · rw [dispatchEffects_pending] at waiting
        rcases List.mem_append.mp waiting with queued | before
        · exact allowed_of_queues quiet kept.queued effect queued
        · exact free effect before
      · rw [dispatchEffects_pending]
        have flying : core.transport.state.inFlight = true := kept.transport ▸ inFlight
        rcases kept.rests resting with before | idle | shut
        · exact absurd flying (by rw [rested before]; exact Bool.false_ne_true)
        · exact absurd flying (by rw [idle]; exact Bool.false_ne_true)
        · exact List.mem_append_left _ shut
      · have flying : core.transport.state.inFlight = true := kept.transport ▸ inFlight
        exact (congrArg Transport.tlsOn kept.transport).trans
          ((secured flying).trans kept.tls.symm)
      · exact kept.transport ▸ settled
  | connects resting sameConfig transport state effects =>
      have idle : changed.transport.state.inFlight = false := transport ▸ rested resting
      refine
        { orderly := orderly
          configured := sameConfig.trans same
          waits := .inr ⟨left, ?_, free, ?_, rfl⟩
          rested := fun _ inFlight => absurd (idle.symm.trans inFlight) Bool.false_ne_true
          secured := fun inFlight => absurd (idle.symm.trans inFlight) Bool.false_ne_true
          settled := transport ▸ settled }
      · rw [dispatchEffects_pending, effects, quiet, same]
        rfl
      · exact congrArg SessionState.rests state
  | reconnects unconnected link state effects =>
      have transport : changed.transport = core.transport := congrArg Link.transport link
      have idle : changed.transport.state.inFlight = false := transport ▸ unconnected
      have port : changed.port = core.port := congrArg Link.port link
      have tls : changed.tlsEnabled = core.tlsEnabled := congrArg Link.tlsEnabled link
      refine
        { orderly := orderly
          configured := (congrArg Link.config link).trans same
          waits := .inr ⟨left, ?_, free, ?_, rfl⟩
          rested := fun _ inFlight => absurd (idle.symm.trans inFlight) Bool.false_ne_true
          secured := fun inFlight => absurd (idle.symm.trans inFlight) Bool.false_ne_true
          settled := transport ▸ settled }
      · rw [dispatchEffects_pending, effects, quiet, same, ← port, ← tls]
        rfl
      · exact congrArg SessionState.rests state

/-- What a line makes of the link. -/
theorem of_line (linked : system.Linked config) (orderly : next.Orderly) (readings : Readings)
    (reads : system.reading ≠ []) (resting : system.running = [])
    (unsettled : system.core.state ≠ .stsUpgrading)
    (line : LinkKept True (system.core.withReadings readings) changed ∨
      ∃ port, Upgraded (system.core.withReadings readings) port changed)
    (link : next.core.link = changed.link) (state : next.core.state = changed.state)
    (pending : next.pending = changed.effects) : next.Linked config := by
  have before : system.pending = system.core.effects := by
    rw [System.pending, resting, List.append_nil]
  have transportOf : next.core.transport = changed.transport := congrArg Link.transport link
  have tlsOf : next.core.tlsEnabled = changed.tlsEnabled := congrArg Link.tlsEnabled link
  have configOf : next.core.config = changed.config := congrArg Link.config link
  have noConnect := linked.free_of_reads reads
  rcases line with kept | ⟨port, upgrade⟩
  · have transport : next.core.transport = system.core.transport :=
      transportOf.trans kept.transport
    have tls : next.core.tlsEnabled = system.core.tlsEnabled := tlsOf.trans kept.tls
    obtain ⟨fresh, queued, allowed⟩ := kept.queued
    have appended : next.pending = system.pending ++ fresh := by
      rw [pending, queued, before]
      rfl
    refine
      { orderly := orderly
        configured := configOf.trans (kept.config.trans linked.configured)
        waits := .inl fun effect waiting => ?_
        rested := fun resting inFlight => ?_
        secured := fun inFlight => .inl ?_
        settled := transport ▸ linked.settled }
    · rw [appended] at waiting
      rcases List.mem_append.mp waiting with earlier | added
      · exact noConnect effect earlier
      · exact allowed effect added
    · rw [transport] at inFlight
      rw [state] at resting
      rcases kept.rests resting with rested | idle | shut
      · rw [appended]
        exact List.mem_append_left _ (linked.rested rested inFlight)
      · exact absurd (idle.symm.trans inFlight) Bool.false_ne_true
      · rw [pending]
        exact shut
    · rw [transport] at inFlight ⊢
      rw [tls]
      exact (linked.secured inFlight).resolve_right fun given => unsettled (given.2.2 reads)
  · have upgraded := upgrade.link
    have transport : next.core.transport = system.core.transport :=
      transportOf.trans (congrArg Link.transport upgraded)
    have secure : next.core.tlsEnabled = true := tlsOf.trans (congrArg Link.tlsEnabled upgraded)
    have upgrading : next.core.state = .stsUpgrading := state.trans upgrade.state
    have shut : .shutdown ∈ next.pending := by
      rw [pending, upgrade.effects]
      exact List.mem_append_right _ (List.mem_singleton_self _)
    refine
      { orderly := orderly
        configured :=
          configOf.trans ((congrArg Link.config upgraded).trans linked.configured)
        waits := .inl fun effect waiting => ?_
        rested := fun _ _ => shut
        secured := fun _ => .inr ⟨secure, shut, fun _ => upgrading⟩
        settled := transport ▸ linked.settled }
    rw [pending, upgrade.effects] at waiting
    rcases List.mem_append.mp waiting with earlier | added
    · exact noConnect effect (before ▸ earlier)
    · rw [List.mem_singleton.mp added]
      exact id

theorem performEffect {effect : Effect} {left : List Effect} (linked : system.Linked config)
    (readings : Readings) (quiet : system.core.effects = [])
    (running : system.running = effect :: left) :
    (System.performEffect (system.core.withReadings readings) effect left).Linked config := by
  have before : system.pending = effect :: left := (pending_of_quiet quiet).trans running
  -- Only the head of what waits asks for a connection.
  have free : ∀ effect ∈ left, ¬effect.IsConnect := by
    rcases linked.waits with noConnect | ⟨behind, waiting, noConnect, -⟩
    · exact fun later listed => noConnect later (before ▸ List.mem_cons_of_mem _ listed)
    · rw [before, List.cons.injEq] at waiting
      exact waiting.2 ▸ noConnect
  have skipped (plain : effect ≠ .shutdown ∨ system.core.transport.state.inFlight = false) :
      Linked config { core := system.core.withReadings readings, running := left } := by
    have waiting : System.pending
        { core := system.core.withReadings readings, running := left } = left :=
      pending_of_quiet quiet
    refine linked.of_same ⟨fun _ => quiet, fun reads => absurd rfl reads⟩ rfl rfl rfl rfl
      (by rw [waiting]; exact free) (fun inFlight shut => ?_) (.inl rfl)
    rw [before] at shut
    rw [waiting]
    rcases List.mem_cons.mp shut with head | later
    · rcases plain with other | idle
      · exact absurd head.symm other
      · exact absurd (idle.symm.trans inFlight) Bool.false_ne_true
    · exact later
  cases effect with
  | write frame => exact skipped (.inl (by rintro ⟨⟩))
  | connect host port tls =>
      unfold System.performEffect
      dsimp only
      split
      · exact skipped (.inl (by rintro ⟨⟩))
      · obtain ⟨behind, waiting, -, running, -⟩ := linked.waits.resolve_left fun noConnect =>
          noConnect (.connect host port tls) (before ▸ List.mem_cons_self) trivial
        rw [before, List.cons.injEq, Effect.connect.injEq] at waiting
        obtain ⟨⟨-, -, same⟩, -⟩ := waiting
        exact
          { orderly := ⟨fun _ => quiet, fun reads => absurd rfl reads⟩
            configured := linked.configured
            waits := .inl fun later waiting => free later (by
              simpa [System.pending, Core.withTransport, Core.withReadings, quiet] using waiting)
            rested := fun resting => absurd (running.symm.trans resting) Bool.false_ne_true
            secured := fun _ => .inl same
            settled := by rintro ⟨⟩ }
  | shutdown =>
      cases inFlight : system.core.transport.state.inFlight with
      | false =>
          rw [performEffect_shutdown_of_idle (system.core.withReadings readings) inFlight]
          exact skipped (.inr inFlight)
      | true =>
          rw [performEffect_shutdown_of_inFlight (system.core.withReadings readings) linked.settled
            inFlight]
          have move := ((system.core.withReadings readings).withTransport
            { system.core.transport with state := .disconnected }).onDisconnected_move .perform rfl
          exact dispatch move linked.configured (by rintro ⟨⟩) quiet (fun _ => rfl)
            (by rintro ⟨⟩) free
  | settleStop =>
      cases idle : system.core.transport.state.inFlight with
      | false =>
          rw [performEffect_settleStop_of_idle (system.core.withReadings readings) idle]
          have move : LinkMove (system.core.withReadings readings) .perform
              ((system.core.withReadings readings).setState .idle) :=
            .stays (.of_link (Core.setState_link _ _) (.of_eq (Core.setState_effects _ _))
              fun _ => .inr (.inl idle))
          exact dispatch move linked.configured linked.settled quiet (fun _ => idle)
            (fun inFlight => absurd (idle.symm.trans inFlight) Bool.false_ne_true) free
      | true =>
          rw [performEffect_settleStop_of_inFlight (system.core.withReadings readings) idle]
          exact skipped (.inl (by rintro ⟨⟩))

/-- With TLS on a line is handled on an encrypted connection. -/
theorem encrypted_of_reads (linked : system.Linked config) (reads : system.reading ≠ [])
    (unsettled : system.core.state ≠ .stsUpgrading) (secure : system.core.tlsEnabled = true) :
    system.core.transport.state = .encrypted := by
  obtain ⟨-, delivers⟩ := linked.orderly.reading reads
  simp only [Transport.delivers, Bool.or_eq_true, Bool.and_eq_true, decide_eq_true_eq,
    Bool.not_eq_true'] at delivers
  refine delivers.resolve_left fun clear => ?_
  have inFlight : system.core.transport.state.inFlight = true := by
    rw [clear.1]
    rfl
  have same := (linked.secured inFlight).resolve_right fun given => unsettled (given.2.2 reads)
  exact Bool.false_ne_true (clear.2.symm.trans (same.trans secure))

variable [Platform]

theorem step {readings : Readings} (linked : system.Linked config)
    (stepped : system.step readings action = some next) : next.Linked config := by
  have orderly := linked.orderly.step stepped
  have outcome := step_outcome linked.orderly stepped
  cases outcome with
  | @enters _ entered quiet resting entry =>
      have silent : system.pending = [] := (pending_of_quiet quiet).trans resting.1
      obtain ⟨rested, secured⟩ := linked.of_silent silent
      obtain ⟨transport, moved, move⟩ := Core.entry_move _ entry
      refine dispatch move linked.configured (moved.closing linked.settled) quiet
        (fun resting => ?_) (fun inFlight => moved.tls.trans (secured (moved.inFlight inFlight)))
        fun _ waiting => absurd waiting List.not_mem_nil
      rw [← Bool.not_eq_true]
      exact fun inFlight => absurd ((rested resting).symm.trans (moved.inFlight inFlight))
        Bool.false_ne_true
  | shuts quiet resting =>
      have waiting : System.pending
          { core := system.core.withReadings readings, running := [.shutdown] } = [.shutdown] :=
        pending_of_quiet quiet
      refine linked.of_same orderly rfl rfl rfl rfl ?_ (fun _ _ => ?_) (.inl rfl)
      · rw [waiting]
        intro effect listed
        rw [List.mem_singleton.mp listed]
        exact id
      · rw [waiting]
        exact List.mem_singleton_self _
  | @reads bytes quiet resting delivers frames =>
      obtain ⟨⟨framer, ping, control⟩, -, effects⟩ :=
        beginRead_begun (system.core.withReadings readings) bytes
      have silent : system.pending = [] := (pending_of_quiet quiet).trans resting.1
      refine linked.of_same orderly (congrArg Control.config control :)
        (congrArg Control.transport control :) (congrArg Control.tlsEnabled control :)
        (congrArg Control.state control :) (fun effect waiting => ?_) (fun _ shut => ?_)
        (.inr silent)
      · rw [System.pending, effects, quiet] at waiting
        cases waiting
      · rw [silent] at shut
        cases shut
  | @drops frame rest reading resting delivers upgrading =>
      have reads : system.reading ≠ [] := reading ▸ List.cons_ne_nil _ _
      have same : (dispatchEffects (system.core.withReadings readings) []).pending =
          system.pending := by
        rw [dispatchEffects_pending, System.pending, resting]
        rfl
      refine linked.of_same orderly rfl rfl rfl rfl ?_ (fun _ shut => ?_) (.inl rfl)
      · rw [same]
        exact linked.free_of_reads reads
      · rw [same]
        exact shut
  | @handles frame rest reading resting delivers settled more =>
      exact linked.of_line orderly readings (reading ▸ List.cons_ne_nil _ _) resting
        settled (Core.handleFrame_move _ frame settled) rfl rfl (List.append_nil _)
  | @finishes frame reading resting delivers settled =>
      exact linked.of_line orderly readings (reading ▸ List.cons_ne_nil _ _) resting
        settled (Core.handleFrame_move _ frame settled) rfl rfl (List.append_nil _)
  | performs quiet read running => exact linked.performEffect readings quiet running

theorem of_reachable (reachable : Reachable config system) : system.Linked config :=
  reachable.invariant (Linked config) initial fun linked _ stepped => linked.step stepped

/-! ## TLS and the policies of one step -/

/-- A step keeps a policy only by a line that it handles on an encrypted connection. -/
theorem step_policies {readings : Readings} (linked : system.Linked config)
    (stepped : system.step readings action = some next) :
    PolicyStep action (action = .handleLine ∧ system.core.transport.state = .encrypted)
      (system.core.withReadings readings) next.core := by
  have lined {changed : Core} (line : action = .handleLine) (reads : system.reading ≠ [])
      (unsettled : system.core.state ≠ .stsUpgrading)
      (move : LinkKept True (system.core.withReadings readings) changed ∨
        ∃ port, Upgraded (system.core.withReadings readings) port changed)
      (after : changed.policies = next.core.policies) :
      PolicyStep action (action = .handleLine ∧ system.core.transport.state = .encrypted)
        (system.core.withReadings readings) next.core :=
    .of_line move after fun secure =>
      ⟨line, linked.encrypted_of_reads reads unsettled secure⟩
  have outcome := step_outcome linked.orderly stepped
  cases outcome with
  | enters quiet resting entry =>
      obtain ⟨transport, -, move⟩ := Core.entry_move _ entry
      exact .of_move move rfl rfl
  | shuts quiet resting => exact .of_same rfl
  | @reads bytes quiet resting delivers frames =>
      obtain ⟨⟨framer, ping, control⟩, -, -⟩ :=
        beginRead_begun (system.core.withReadings readings) bytes
      exact .of_same (policies_of_link (congrArg Control.link control :))
  | drops reading resting delivers upgrading => exact .of_same rfl
  | @handles frame rest reading resting delivers settled more =>
      exact lined rfl (reading ▸ List.cons_ne_nil _ _) settled
        (Core.handleFrame_move _ frame settled) rfl
  | @finishes frame reading resting delivers settled =>
      exact lined rfl (reading ▸ List.cons_ne_nil _ _) settled
        (Core.handleFrame_move _ frame settled) rfl
  | @performs effect left quiet read running =>
      cases effect with
      | write frame => exact .of_same rfl
      | connect host port tls =>
          unfold System.performEffect
          simp only
          split
          · exact .of_same rfl
          · exact .of_same rfl
      | shutdown =>
          cases inFlight : system.core.transport.state.inFlight with
          | false =>
              rw [performEffect_shutdown_of_idle (system.core.withReadings readings) inFlight]
              exact .of_same rfl
          | true =>
              rw [performEffect_shutdown_of_inFlight (system.core.withReadings readings)
                linked.settled inFlight]
              have move := ((system.core.withReadings readings).withTransport
                { system.core.transport with state := .disconnected }).onDisconnected_move
                  .perform rfl
              exact .of_move move rfl rfl
      | settleStop =>
          unfold System.performEffect
          simp only
          split
          · exact .of_same (policies_of_link (Core.setState_link _ _))
          · exact .of_same rfl

/-- TLS stays on over a run without a start, and the port moves to those of cached policies. -/
theorem run_secure {labels : List (Readings × Action)} {later : System}
    (linked : system.Linked config) (secure : system.core.tlsEnabled = true)
    (ran : system.run labels = some later) (going : ∀ label ∈ labels, label.2 ≠ .start) :
    later.Linked config ∧ later.core.tlsEnabled = true ∧
      (later.core.port = system.core.port ∨ ∃ label ∈ labels, ∃ cached,
        label.1.cachedSts = some cached ∧ later.core.port = cached.port) := by
  induction labels generalizing system with
  | nil =>
      cases ran
      exact ⟨linked, secure, .inl rfl⟩
  | cons label rest inductionHypothesis =>
      obtain ⟨next, stepped, tail⟩ := Option.bind_eq_some_iff.mp ran
      obtain ⟨nextSecure, nextPort⟩ := (linked.step_policies stepped).secure
        (going label List.mem_cons_self) secure
      obtain ⟨laterLinked, laterSecure, port⟩ := inductionHypothesis (linked.step stepped)
        nextSecure tail fun label listed => going label (List.mem_cons_of_mem _ listed)
      refine ⟨laterLinked, laterSecure, ?_⟩
      rcases port with same | ⟨label, listed, cached, found, moved⟩
      · rcases nextPort with kept | ⟨cached, found, moved⟩
        · exact .inl (same.trans kept)
        · exact .inr ⟨label, List.mem_cons_self, cached, found, same.trans moved⟩
      · exact .inr ⟨label, List.mem_cons_of_mem _ listed, cached, found, moved⟩

end Linked

variable [Platform] {config : SessionConfig} {system later : System}

/-- TLS is never given up. Once a session is on TLS, by its settings, a cached policy or an upgrade,
it stays on TLS until the next start: every connection it waits for is a TLS one to the configured
host and the session's port, which only a cached policy moves, a connection in flight is a TLS one
or waits to be shut down, and lines are handled on an encrypted connection alone. -/
theorem tls_never_downgraded {labels : List (Readings × Action)}
    (reachable : Reachable config system) (secure : system.core.tlsEnabled = true)
    (ran : system.run labels = some later) (going : ∀ label ∈ labels, label.2 ≠ .start) :
    later.core.tlsEnabled = true ∧
      (later.core.port = system.core.port ∨ ∃ label ∈ labels, ∃ cached,
        label.1.cachedSts = some cached ∧ later.core.port = cached.port) ∧
      (∀ host port tls, .connect host port tls ∈ later.pending →
        host = config.host ∧ port = later.core.port ∧ tls = true) ∧
      (later.core.transport.state.inFlight = true →
        later.core.transport.tlsOn = true ∨ .shutdown ∈ later.pending) ∧
      (later.reading ≠ [] → later.core.state ≠ .stsUpgrading →
        later.core.transport.state = .encrypted) := by
  obtain ⟨linked, laterSecure, port⟩ :=
    (Linked.of_reachable reachable).run_secure secure ran going
  refine ⟨laterSecure, port, fun host port tls waiting => ?_, fun inFlight => ?_,
    fun reads unsettled => linked.encrypted_of_reads reads unsettled laterSecure⟩
  · rcases linked.waits with none | ⟨left, pending, free, -⟩
    · exact absurd trivial (none _ waiting)
    · rw [pending] at waiting
      rcases List.mem_cons.mp waiting with head | behind
      · rw [Effect.connect.injEq] at head
        exact ⟨head.1, head.2.1, head.2.2.trans laterSecure⟩
      · exact absurd trivial (free _ behind)
  · rcases linked.secured inFlight with same | ⟨-, shut, -⟩
    · exact .inl (same.trans laterSecure)
    · exact .inr shut

/-- No line is handled on an encrypted connection. -/
def Unheard (system : System) (label : Readings × Action) : Prop :=
  ¬(label.2 = .handleLine ∧ system.core.transport.state = .encrypted)

/-- Policies are kept only by what is heard over TLS. In a run that handles no line on an encrypted
connection, the session asks nothing of the policy cache, but for one refresh of the policy it held
when the run began. -/
theorem policies_heard_over_tls (reachable : Reachable config system)
    (runs : Semantics.Runs transition Unheard system later) :
    (later.core.stsOperations = system.core.stsOperations ∧
        (later.core.stsDuration = system.core.stsDuration ∨ later.core.stsDuration = none)) ∨
      ∃ duration now, system.core.stsDuration = some duration ∧
        later.core.stsOperations =
          system.core.stsOperations ++ [.refresh config.host duration now] ∧
        later.core.stsDuration = none := by
  refine (runs.invariant (fun later => later.Linked config ∧
    ((later.core.stsOperations = system.core.stsOperations ∧
        (later.core.stsDuration = system.core.stsDuration ∨ later.core.stsDuration = none)) ∨
      ∃ duration now, system.core.stsDuration = some duration ∧
        later.core.stsOperations =
          system.core.stsOperations ++ [.refresh config.host duration now] ∧
        later.core.stsDuration = none))
    ⟨.of_reachable reachable, .inl ⟨rfl, .inl rfl⟩⟩ ?_).2
  rintro current label next ⟨linked, asked⟩ unheard stepped
  refine ⟨linked.step stepped, ?_⟩
  have policies := (linked.step_policies stepped).policies
  cases policies with
  | kept operations duration =>
      have sameOperations : next.core.stsOperations = current.core.stsOperations := operations
      have sameDuration : next.core.stsDuration = current.core.stsDuration ∨
          next.core.stsDuration = none := duration
      rw [sameOperations]
      rcases asked with ⟨same, held⟩ | ⟨duration, now, held, refreshed, spent⟩
      · refine .inl ⟨same, ?_⟩
        rcases sameDuration with still | none
        · exact held.imp still.trans still.trans
        · exact .inr none
      · refine .inr ⟨duration, now, held, refreshed, ?_⟩
        rcases sameDuration with still | none
        · exact still.trans spent
        · exact none
  | @refreshed duration secure held operations spent =>
      have before : current.core.stsDuration = some duration := held
      rcases asked with ⟨same, still | none⟩ | ⟨other, now, -, -, spent⟩
      · refine .inr ⟨duration, label.1.now, still.symm.trans before, ?_, spent⟩
        rw [operations]
        show current.core.stsOperations ++ [.refresh current.core.config.host duration _] = _
        rw [same, linked.configured]
        rfl
      · rw [none] at before
        cases before
      · rw [spent] at before
        cases before
  | cleared heard secure operations duration => exact absurd heard unheard
  | stored heard secure operations duration => exact absurd heard unheard

/-- The policies a session asks for are those it was told. Every operation is for the configured
host, and a refresh comes right after the store whose duration it repeats: no policy is refreshed
that was cleared or refreshed since. -/
theorem policies_logged (reachable : Reachable config system) :
    PolicyLog config.host system.core.stsOperations system.core.stsDuration := by
  have started : (initial config).Linked config ∧
      PolicyLog config.host (initial config).core.stsOperations
        (initial config).core.stsDuration :=
    ⟨.initial, fun _ listed => absurd listed List.not_mem_nil, nofun,
      fun before duration now after split => absurd split.symm (by simp [initial, Core.new])⟩
  refine (reachable.invariant (fun system => system.Linked config ∧
    PolicyLog config.host system.core.stsOperations system.core.stsDuration) started ?_).2
  rintro current label next ⟨linked, log⟩ - stepped
  refine ⟨linked.step stepped, ?_⟩
  have own : current.core.config.host = config.host := by rw [linked.configured]
  cases (linked.step_policies stepped).policies with
  | kept operations duration =>
      have same : next.core.stsOperations = current.core.stsOperations := operations
      have left : next.core.stsDuration = current.core.stsDuration ∨
          next.core.stsDuration = none := duration
      rw [same]
      rcases left with still | none
      · rw [still]
        exact log
      · rw [none]
        exact log.drop
  | @refreshed duration secure held operations spent =>
      rw [operations, spent]
      refine log.append _ ?_ none nofun fun other now listed => ?_
      · exact own
      · rw [StsOperation.refresh.injEq] at listed
        exact listed.2.1 ▸ held
  | cleared heard secure operations duration =>
      rw [operations, duration]
      refine log.append _ ?_ none nofun nofun
      exact own
  | stored heard secure operations duration =>
      rw [operations, duration]
      refine log.append _ ?_ _ (fun other same => ?_) nofun
      · exact own
      · obtain rfl := Option.some.inj same
        exact ⟨_, _, congrArg (fun host => StsOperation.store host _ _ _) own⟩

end System

section Reference

local instance linkPlatform : Platform := reference

/-- Connect over TLS, and read some lines. -/
def encryptedActions (lines : List String) : List Action :=
  [.perform, .connected, .encrypted, .perform] ++ readActions lines

namespace System

/-- A plaintext session is upgraded, connects over TLS and registers there. -/
theorem tls_never_downgraded_upgrade :
    ∃ system later : System, system.core.state = .stsUpgrading ∧
      system.run (underOneClock (.perform :: encryptedActions [":s CAP * LS :sts=duration=60"])) =
        some later ∧ later.core.state = .registering ∧ later.core.tlsEnabled = true := by
  have ends : ((initial plaintextProfile).run (underOneClock (connectActions ++
      readActions [":s CAP * LS :sts=port=6697"]))).any (fun system =>
        system.core.state = .stsUpgrading && system.core.tlsEnabled &&
          (system.run (underOneClock (.perform ::
            encryptedActions [":s CAP * LS :sts=duration=60"]))).any fun later =>
              later.core.state = .registering) = true := by
    decide +kernel
  obtain ⟨system, taken, holds⟩ := exists_of_any ends
  simp only [Bool.and_eq_true, decide_eq_true_eq] at holds
  obtain ⟨later, ran, registering⟩ := exists_of_any holds.2
  have going : ∀ label ∈ underOneClock (.perform ::
      encryptedActions [":s CAP * LS :sts=duration=60"]), label.2 ≠ .start := by
    simp [underOneClock, encryptedActions, readActions]
  exact ⟨system, later, holds.1.1, ran, by simpa using registering,
    (tls_never_downgraded (.of_runAll taken) holds.1.2 ran going).1⟩

/-- Start over TLS, read the server's policy and register. -/
def policyActions : List Action :=
  .start :: encryptedActions [":s CAP * LS :sts=duration=60"] ++ performActions 3

/-- A stop refreshes the policy that was heard on the connection. -/
theorem policies_heard_over_tls_stop :
    ∃ system later : System, system.core.stsDuration = some 60 ∧
      transition system ({}, .stop) = some later ∧
      later.core.stsOperations ≠ system.core.stsOperations ∧
      ((later.core.stsOperations = system.core.stsOperations ∧
          (later.core.stsDuration = system.core.stsDuration ∨ later.core.stsDuration = none)) ∨
        ∃ duration now, system.core.stsDuration = some duration ∧
          later.core.stsOperations =
            system.core.stsOperations ++ [.refresh "irc.example" duration now] ∧
          later.core.stsDuration = none) := by
  have ends : ((initial (.withDefaults "net" "irc.example" "nick")).run
      (underOneClock policyActions)).any (fun system => system.core.stsDuration = some 60 &&
        (transition system ({}, .stop)).any fun later =>
          later.core.stsOperations ≠ system.core.stsOperations) = true := by
    decide +kernel
  obtain ⟨system, taken, holds⟩ := exists_of_any ends
  simp only [Bool.and_eq_true, decide_eq_true_eq] at holds
  obtain ⟨later, stepped, asked⟩ := exists_of_any holds.2
  have unheard : Unheard system ({}, .stop) := fun heard => by cases heard.1
  exact ⟨system, later, holds.1, stepped, by simpa using asked,
    policies_heard_over_tls (.of_runAll taken) (Semantics.Runs.refl.step unheard stepped)⟩

/-- The policy heard on a connection is stored, and refreshed when the connection is stopped. -/
theorem policies_logged_stop :
    ∃ system : System, system.core.stsOperations =
        [.store "irc.example" 6697 60 0, .refresh "irc.example" 60 0] ∧
      PolicyLog "irc.example" system.core.stsOperations system.core.stsDuration := by
  have ends : ((initial (.withDefaults "net" "irc.example" "nick")).run
      (underOneClock (policyActions ++ [.stop]))).any (fun system => system.core.stsOperations =
        [.store "irc.example" 6697 60 0, .refresh "irc.example" 60 0]) = true := by
    decide +kernel
  obtain ⟨system, taken, holds⟩ := exists_of_any ends
  exact ⟨system, by simpa using holds, policies_logged (.of_runAll taken)⟩

end System

end Reference

end Omairc.Session
