import Omairc.Session.QueuedEffects

/-!
# What each entry point and each line does to the link

The link is the port, TLS, the transport and the policies kept for the host. Only a start, a
reconnect attempt and an STS upgrade move it, and a policy is kept only by a line that is heard
with TLS on, or refreshed when a connection ends.
-/

namespace Omairc.Session

open Omairc.Text Omairc.Irc

/-- The states that a session rests in between connections. -/
def SessionState.rests : SessionState → Bool
  | .idle | .failed | .reconnecting => true
  | _ => false

/-- A request to connect. -/
def Effect.IsConnect : Effect → Prop
  | .connect _ _ _ => True
  | _ => False

theorem Effect.IsPlain.not_connect {effect : Effect} (plain : effect.IsPlain) :
    ¬effect.IsConnect := by
  cases effect with
  | connect host port tls => exact absurd plain id
  | write frame => exact id
  | shutdown => exact id
  | settleStop => exact id

/-- What a change does to the policies. `heard` says whether a line was handled. -/
inductive PolicyMove (heard : Prop) (core changed : Core) : Prop
  | kept (operations : changed.stsOperations = core.stsOperations)
      (duration : changed.stsDuration = core.stsDuration ∨ changed.stsDuration = none)
  | refreshed {duration : Int} (secure : core.tlsEnabled = true)
      (held : core.stsDuration = some duration)
      (operations : changed.stsOperations =
        core.stsOperations ++ [.refresh core.config.host duration core.now])
      (spent : changed.stsDuration = none)
  | cleared (line : heard) (secure : core.tlsEnabled = true)
      (operations : changed.stsOperations = core.stsOperations ++ [.clear core.config.host])
      (duration : changed.stsDuration = none)
  | stored {seconds : Int} (line : heard) (secure : core.tlsEnabled = true)
      (operations : changed.stsOperations =
        core.stsOperations ++ [.store core.config.host core.port seconds core.now])
      (duration : changed.stsDuration = some seconds)

/-- What a session keeps from one connection to the next. -/
structure Policies where
  config : SessionConfig
  readings : Readings
  port : UInt16
  tlsEnabled : Bool
  stsOperations : List StsOperation
  stsDuration : Option Int

/-- The policies of a session. -/
def Core.policies (core : Core) : Policies where
  config := core.config
  readings := core.readings
  port := core.port
  tlsEnabled := core.tlsEnabled
  stsOperations := core.stsOperations
  stsDuration := core.stsDuration

theorem policies_of_link {core changed : Core} (link : changed.link = core.link) :
    changed.policies = core.policies :=
  congrArg (fun link => Policies.mk link.config link.readings link.port link.tlsEnabled
    link.stsOperations link.stsDuration) link

/-- A change is known by the policies of its ends. -/
theorem PolicyMove.transfer {heard told : Prop} {core changed start final : Core}
    (move : PolicyMove heard core changed) (before : core.policies = start.policies)
    (after : changed.policies = final.policies)
    (line : heard → core.tlsEnabled = true → told) : PolicyMove told start final := by
  have config : core.config = start.config := congrArg Policies.config before
  have now : core.now = start.now := congrArg (fun policies => policies.readings.now) before
  have port : core.port = start.port := congrArg Policies.port before
  have tls : core.tlsEnabled = start.tlsEnabled := congrArg Policies.tlsEnabled before
  have held : core.stsDuration = start.stsDuration := congrArg Policies.stsDuration before
  have operations : core.stsOperations = start.stsOperations :=
    congrArg Policies.stsOperations before
  have added : changed.stsOperations = final.stsOperations := congrArg Policies.stsOperations after
  have left : changed.stsDuration = final.stsDuration := congrArg Policies.stsDuration after
  cases move with
  | kept same duration =>
      exact .kept (added.symm.trans (same.trans operations))
        (by rw [← left, ← held]; exact duration)
  | refreshed secure was same spent =>
      exact .refreshed (tls ▸ secure) (held ▸ was)
        (by rw [← added, same, operations, config, now]) (left ▸ spent)
  | cleared heard secure same duration =>
      exact .cleared (line heard secure) (tls ▸ secure)
        (by rw [← added, same, operations, config]) (left ▸ duration)
  | stored heard secure same duration =>
      exact .stored (line heard secure) (tls ▸ secure)
        (by rw [← added, same, operations, config, port, now]) (left ▸ duration)

/-- A change that asks for no connection and leaves the port and TLS. One that comes to rest was at
rest, has no connection in flight, or shuts it down. -/
structure LinkKept (heard : Prop) (core changed : Core) : Prop where
  config : changed.config = core.config
  transport : changed.transport = core.transport
  port : changed.port = core.port
  tls : changed.tlsEnabled = core.tlsEnabled
  policies : PolicyMove heard core changed
  queued : Queues (fun effect => ¬effect.IsConnect) core changed
  rests : changed.state.rests = true → core.state.rests = true ∨
    core.transport.state.inFlight = false ∨ .shutdown ∈ changed.effects

namespace LinkKept

variable {heard : Prop} {core middle changed : Core}

/-- A change that leaves the link as it is. -/
theorem of_link (link : changed.link = core.link)
    (queued : Queues (fun effect => ¬effect.IsConnect) core changed)
    (rests : changed.state.rests = true → core.state.rests = true ∨
      core.transport.state.inFlight = false ∨ .shutdown ∈ changed.effects) :
    LinkKept heard core changed where
  config := congrArg Link.config link
  transport := congrArg Link.transport link
  port := congrArg Link.port link
  tls := congrArg Link.tlsEnabled link
  policies := .kept (congrArg Link.stsOperations link) (.inl (congrArg Link.stsDuration link))
  queued := queued
  rests := rests

theorem refl (core : Core) : LinkKept heard core core := of_link rfl (.refl core) .inl

/-- A change after one that leaves the link and the state. -/
theorem after (second : LinkKept heard middle changed) (link : middle.link = core.link)
    (state : middle.state.rests = true → core.state.rests = true)
    (queued : Queues (fun effect => ¬effect.IsConnect) core middle) :
    LinkKept heard core changed where
  config := second.config.trans (congrArg Link.config link)
  transport := second.transport.trans (congrArg Link.transport link)
  port := second.port.trans (congrArg Link.port link)
  tls := second.tls.trans (congrArg Link.tlsEnabled link)
  policies := second.policies.transfer (policies_of_link link) rfl fun line _ => line
  queued := queued.trans second.queued
  rests := by
    intro resting
    have transport : middle.transport = core.transport := congrArg Link.transport link
    rcases second.rests resting with before | idle | shut
    · exact .inl (state before)
    · exact .inr (.inl (transport ▸ idle))
    · exact .inr (.inr shut)

/-- A handshake comes to no rest. -/
theorem rests_of_negotiated (change : Negotiated core changed)
    (resting : changed.state.rests = true) : core.state.rests = true := by
  rcases change.state with kept | moved
  · exact kept ▸ resting
  · cases moving : changed.state <;> rw [moving] at resting moved <;> first
      | exact absurd resting Bool.false_ne_true
      | exact absurd moved Bool.false_ne_true

theorem of_negotiated (change : Negotiated core changed) : LinkKept heard core changed :=
  .of_link change.link ((Queues.of_negotiated change).mono fun _ => Effect.IsPlain.not_connect)
    fun resting => .inl (rests_of_negotiated change resting)

theorem of_peripheral {Allowed : Bytes → Prop} (change : Peripheral Allowed core changed) :
    LinkKept heard core changed := by
  obtain ⟨frames, queued, -, -⟩ := change.writes
  refine .of_link (congrArg Control.link change.control) ⟨queuedWrites frames, queued, ?_⟩
    fun resting => .inl (change.state ▸ resting)
  intro effect listed
  obtain ⟨frame, -, rfl⟩ := List.mem_map.mp listed
  exact id

/-- A failure shuts a connection in flight down. -/
theorem fail (core : Core) (kind : ErrorKind) (message : String) (reconnect : Bool) :
    LinkKept heard core (core.fail kind message reconnect) := by
  have link := core.fail_link kind message reconnect
  refine
    { config := congrArg Link.config link
      transport := congrArg Link.transport link
      port := congrArg Link.port link
      tls := congrArg Link.tlsEnabled link
      policies := .kept (congrArg Link.stsOperations link) (.inl (congrArg Link.stsDuration link))
      queued := (core.fail_queues kind message reconnect).mono fun _ => Effect.IsPlain.not_connect
      rests := fun _ => ?_ }
  cases reconnect with
  | false =>
      rw [core.fail_fatal_effects]
      exact .inr (.inr (List.mem_append_right _ (List.mem_singleton_self _)))
  | true =>
      cases inFlight : core.transport.state.inFlight with
      | false => exact .inr (.inl rfl)
      | true =>
          rw [core.fail_retry_inFlight_effects _ _ inFlight]
          exact .inr (.inr (List.mem_append_right _ (List.mem_singleton_self _)))

theorem of_handshake (change : Handshake core changed) : LinkKept heard core changed := by
  cases change with
  | proceeds change => exact of_negotiated change
  | fails change kind text =>
      exact (fail _ kind text false).after change.link (rests_of_negotiated change)
        ((Queues.of_negotiated change).mono fun _ => Effect.IsPlain.not_connect)

/-- A handshake after an STS advertisement was noted. -/
theorem of_sts (line : heard) (sts : StsChange core middle) (change : Handshake middle changed) :
    LinkKept heard core changed := by
  have rest : LinkKept heard middle changed := of_handshake change
  have link := change.link
  have operations : changed.stsOperations = middle.stsOperations :=
    congrArg Link.stsOperations link
  have duration : changed.stsDuration = middle.stsDuration := congrArg Link.stsDuration link
  refine
    { config := rest.config.trans (congrArg Link.config sts.link)
      transport := rest.transport.trans (congrArg Link.transport sts.link)
      port := rest.port.trans (congrArg Link.port sts.link)
      tls := rest.tls.trans (congrArg Link.tlsEnabled sts.link)
      policies := ?_
      queued := Queues.trans (.of_eq sts.effects) rest.queued
      rests := fun resting => ?_ }
  · rcases sts.operations with ⟨same, still⟩ | ⟨secure, ⟨cleared, none_⟩ | ⟨seconds, stored, some_⟩⟩
    · exact .kept (operations.trans same) (.inl (duration.trans still))
    · exact .cleared line secure (operations.trans cleared) (duration.trans none_)
    · exact .stored line secure (operations.trans stored) (duration.trans some_)
  · have transport : middle.transport = core.transport := congrArg Link.transport sts.link
    rw [← sts.state, ← transport]
    exact rest.rests resting

/-- What follows an expiry refresh and moves the lifecycle decisions alone. -/
theorem of_reschedule
    (link : changed.link =
      { core.rescheduleStsExpiry.link with connection := changed.connection })
    (queued : Queues (fun effect => ¬effect.IsConnect) core changed)
    (rests : changed.state.rests = true → core.state.rests = true ∨
      core.transport.state.inFlight = false ∨ .shutdown ∈ changed.effects) :
    LinkKept heard core changed := by
  have same := core.rescheduleStsExpiry_control
  have config : core.rescheduleStsExpiry.config = core.config := (congrArg Control.config same :)
  have transport : core.rescheduleStsExpiry.transport = core.transport :=
    (congrArg Control.transport same :)
  have port : core.rescheduleStsExpiry.port = core.port := (congrArg Control.port same :)
  have tls : core.rescheduleStsExpiry.tlsEnabled = core.tlsEnabled :=
    (congrArg Control.tlsEnabled same :)
  refine
    { config := (congrArg Link.config link).trans config
      transport := (congrArg Link.transport link).trans transport
      port := (congrArg Link.port link).trans port
      tls := (congrArg Link.tlsEnabled link).trans tls
      policies := ?_
      queued := queued
      rests := rests }
  have operations : changed.stsOperations = core.rescheduleStsExpiry.stsOperations :=
    congrArg Link.stsOperations link
  have duration : changed.stsDuration = core.rescheduleStsExpiry.stsDuration :=
    congrArg Link.stsDuration link
  have refreshed := core.rescheduleStsExpiry_toControl
  cases secure : core.tlsEnabled with
  | false =>
      rw [secure] at refreshed
      exact .kept (operations.trans (congrArg Control.stsOperations refreshed))
        (.inl (duration.trans (congrArg Control.stsDuration refreshed)))
  | true =>
      cases held : core.stsDuration with
      | none =>
          rw [secure, held] at refreshed
          exact .kept (operations.trans (congrArg Control.stsOperations refreshed))
            (.inr (duration.trans ((congrArg Control.stsDuration refreshed).trans held)))
      | some seconds =>
          rw [secure, held] at refreshed
          exact .refreshed secure held
            (operations.trans (congrArg Control.stsOperations refreshed))
            (duration.trans (congrArg Control.stsDuration refreshed))

end LinkKept

/-- What an entry or a disconnect does to the link: it leaves the port and TLS, it asks for a
connection from rest, under the cached policy, or it asks for the one of an STS upgrade. -/
inductive LinkMove (core : Core) (action : Action) : Core → Prop
  | stays {changed : Core} (kept : LinkKept False core changed) : LinkMove core action changed
  | connects {changed : Core} (rested : core.state.rests = true)
      (config : changed.config = core.config) (transport : changed.transport = core.transport)
      (state : changed.state = .connecting)
      (effects : changed.effects =
        core.effects ++ [.connect core.config.host changed.port changed.tlsEnabled])
      (operations : changed.stsOperations = core.stsOperations)
      (duration : changed.stsDuration = core.stsDuration ∨ changed.stsDuration = none)
      (continues : action ≠ .start →
        (core.tlsEnabled = true → changed.tlsEnabled = true) ∧
          (changed.port = core.port ∨
            ∃ cached, core.readings.cachedSts = some cached ∧ changed.port = cached.port)) :
      LinkMove core action changed
  | reconnects {changed : Core} (idle : core.transport.state.inFlight = false)
      (link : changed.link = core.link) (state : changed.state = .stsUpgrading)
      (effects : changed.effects =
        core.effects ++ [.connect core.config.host core.port core.tlsEnabled]) :
      LinkMove core action changed

namespace LinkMove

variable {core changed : Core} {action : Action}

/-- No entry and no disconnect keeps a policy: at most the one that is held is refreshed. -/
theorem policies (move : LinkMove core action changed) : PolicyMove False core changed := by
  cases move with
  | stays kept => exact kept.policies
  | connects rested config transport state effects operations duration continues =>
      exact .kept operations duration
  | reconnects idle link state effects =>
      exact .kept (congrArg Link.stsOperations link) (.inl (congrArg Link.stsDuration link))

theorem transport (move : LinkMove core action changed) : changed.transport = core.transport := by
  cases move with
  | stays kept => exact kept.transport
  | connects rested config transport => exact transport
  | reconnects idle link => exact congrArg Link.transport link

/-- TLS stays on, and the port moves to that of a cached policy alone. -/
theorem keeps_tls (move : LinkMove core action changed) (going : action ≠ .start)
    (secure : core.tlsEnabled = true) :
    changed.tlsEnabled = true ∧ (changed.port = core.port ∨
      ∃ cached, core.readings.cachedSts = some cached ∧ changed.port = cached.port) := by
  cases move with
  | stays kept => exact ⟨kept.tls.trans secure, .inl kept.port⟩
  | connects rested config transport state effects operations duration continues =>
      exact ⟨(continues going).1 secure, (continues going).2⟩
  | reconnects idle link state effects =>
      exact ⟨(congrArg Link.tlsEnabled link :).trans secure, .inl (congrArg Link.port link)⟩

end LinkMove

namespace Core

variable (core : Core)

theorem setState_link (state : SessionState) : (core.setState state).link = core.link := by
  rw [Control.link, setState_toControl, Control.link]

theorem stopping_link :
    core.stopping.link =
      { core.rescheduleStsExpiry.link with connection := core.stopping.connection } := by
  have control := core.stopping_toControl
  have connection : core.stopping.connection = core.rescheduleStsExpiry.connection.beginStop :=
    (congrArg Control.connection control :)
  rw [connection]
  exact (congrArg Control.link control :)

/-- A stop asks for no connection, and shuts down what is in flight. -/
theorem stop_kept {heard : Prop} : LinkKept heard core core.stop := by
  have queued : Queues (fun effect => ¬effect.IsConnect) core core.stop := by
    refine core.stop_queues.mono fun effect ends => ?_
    rcases ends with rfl | rfl
    · exact id
    · exact id
  have link : core.stop.link =
      { core.rescheduleStsExpiry.link with connection := core.stop.connection } := by
    rw [stop_eq]
    split_ifs
    · exact core.stopping_link
    · rw [Control.link, setState_toControl]
      exact core.stopping_link
    · rw [Control.link, queue_toControl, queue_toControl, setState_toControl]
      exact core.stopping_link
  refine .of_reschedule link queued fun resting => ?_
  rw [stop_eq] at resting ⊢
  split_ifs at resting ⊢ with idle gone
  · rw [idle]
    exact .inl rfl
  · rcases gone with gone | gone <;> rw [gone] <;> exact .inl rfl
  · have state : (((core.stopping.setState .closing).queue .shutdown).queue .settleStop).state =
        .closing := by simp
    rw [state] at resting
    cases resting

/-! ## Connecting -/

theorem connecting_move {action : Action} (begun : Core) (rested : core.state.rests = true)
    (config : begun.config = core.config) (transport : begun.transport = core.transport)
    (effects : begun.effects = core.effects)
    (operations : begun.stsOperations = core.stsOperations)
    (duration : begun.stsDuration = core.stsDuration ∨ begun.stsDuration = none)
    (continues : action ≠ .start → begun.tlsEnabled = core.tlsEnabled ∧ begun.port = core.port ∧
      begun.readings = core.readings) : LinkMove core action begun.connecting := by
  have control := begun.connecting_toControl
  have port : begun.connecting.port =
      (begun.readings.cachedSts.map StsCached.port).getD begun.port :=
    (congrArg Control.port control :)
  have tls : begun.connecting.tlsEnabled =
      (begun.tlsEnabled || begun.readings.cachedSts.isSome) :=
    (congrArg Control.tlsEnabled control :)
  refine .connects rested ((congrArg Control.config control :).trans config)
    ((congrArg Control.transport control :).trans transport) (congrArg Control.state control :) ?_
    ((congrArg Control.stsOperations control :).trans operations)
    (duration.imp (congrArg Control.stsDuration control :).trans
      (congrArg Control.stsDuration control :).trans) fun other => ?_
  · rw [begun.connecting_effects, effects, config]
  · obtain ⟨sameTls, samePort, sameReadings⟩ := continues other
    refine ⟨fun secure => ?_, ?_⟩
    · rw [tls, sameTls, secure, Bool.true_or]
    · rw [port, samePort, sameReadings]
      cases core.readings.cachedSts with
      | none => exact .inl rfl
      | some cached => exact .inr ⟨cached, rfl, rfl⟩

theorem start_move : LinkMove core .start core.start := by
  rw [start_eq]
  split_ifs with busy lacking
  · exact .stays (.refl core)
  · exact .stays (.fail core _ _ false)
  · have rested : core.state.rests = true := by
      rw [not_and_or, not_not, not_not] at busy
      rcases busy with idle | failed
      · rw [idle]
        rfl
      · rw [failed]
        rfl
    exact core.connecting_move core.started rested rfl rfl rfl rfl (.inr rfl)
      fun other => absurd rfl other

theorem beginReconnectAttempt_move (action : Action) :
    LinkMove core action core.beginReconnectAttempt := by
  rw [beginReconnectAttempt_eq]
  split_ifs with busy
  · exact .stays (.refl core)
  · rw [not_not] at busy
    exact core.connecting_move (core.cancelTimer .reconnect) (by rw [busy]; rfl) rfl rfl rfl rfl
      (.inl rfl) fun _ => ⟨rfl, rfl, rfl⟩

/-! ## Disconnects and timers -/

/-- A disconnect finds nothing in flight. -/
theorem onDisconnected_move (action : Action) (idle : core.transport.state.inFlight = false) :
    LinkMove core action core.onDisconnected := by
  have change := core.onDisconnected_change
  revert change
  generalize core.onDisconnected = changed
  intro change
  cases change with
  | upgraded unexpected upgrading =>
      refine .reconnects idle ?_ ?_ ?_
      · rw [Control.link, finishStsUpgrade, connectTransport_toControl,
          resetForConnection_toControl]
        rfl
      · simp [finishStsUpgrade, upgrading]
      · simp [finishStsUpgrade]
  | retried retrying =>
      have noted :
          ({ core with connection.intent := .unexpected } : Core).rescheduleStsExpiry.link =
          { core.rescheduleStsExpiry.link with
            connection := { core.connection with intent := .unexpected } } := by
        rw [rescheduleStsExpiry, rescheduleStsExpiry]
        dsimp only
        split
        · rfl
        · split <;> rfl
      refine .stays (.of_reschedule ?_ (.of_eq (by simp)) fun _ => .inr (.inl idle))
      rw [scheduleReconnect_link, noted]
  | settled stopping closing =>
      refine .stays (.of_reschedule ?_ (.of_eq (by simp)) fun _ => .inr (.inl idle))
      rw [Control.link, setState_toControl]
      rfl
  | ignored stopping running =>
      exact .stays (.of_reschedule rfl (.of_eq (by simp)) fun _ => .inr (.inl idle))
  | failed unexpected settled =>
      refine .stays (.of_reschedule (fail_link _ _ _ _) ?_ fun _ => .inr (.inl idle))
      refine Queues.trans (.of_eq core.rescheduleStsExpiry_effects) ?_
      exact (fail_queues _ _ _ _).mono fun _ => Effect.IsPlain.not_connect

theorem onPingWatchdogFired_kept {heard : Prop} : LinkKept heard core core.onPingWatchdogFired := by
  unfold onPingWatchdogFired
  generalize core.ping.expire = expired
  obtain ⟨ping, expiry⟩ := expired
  split
  · exact .refl core
  · cases expiry with
    | probe =>
        have frame : IsFrame (utf8 ("PING :" ++ pingWatchdogToken) ++ crlf) :=
          isFrame_append_crlf (by decide)
        have sent := Negotiated.sendLine ({ core with ping } : Core) frame
        have probed : LinkKept heard ({ core with ping } : Core)
            ((({ core with ping } : Core).sendLine
              (utf8 ("PING :" ++ pingWatchdogToken) ++ crlf)).armTimer .ping
              (fromMillis core.config.pingTimeoutMs)) :=
          .of_link sent.link
            (((Queues.of_negotiated sent).mono fun _ => Effect.IsPlain.not_connect).trans
              (.of_eq rfl))
            fun resting => .inl (LinkKept.rests_of_negotiated sent resting)
        exact probed.after rfl (fun resting => resting) (.of_eq rfl)
    | timeout => exact (LinkKept.fail _ _ _ _).after rfl id (.of_eq rfl)
    | nothing => exact .of_link rfl (.of_eq rfl) .inl

/-- A timer leaves the link, but for the reconnect timer, which connects. -/
theorem timerFired_move (slot : TimerSlot) (id : Nat) :
    LinkMove core (.timerFired slot id) (core.timerFired slot id) := by
  unfold timerFired
  split
  · exact .stays (.refl core)
  · have disarmed {changed : Core}
        (kept : LinkKept False (core.cancelTimer slot) changed) :
        LinkMove core (.timerFired slot id) changed :=
      .stays (kept.after rfl (fun resting => resting) (.of_eq rfl))
    cases slot with
    | reconnect =>
        simp only
        rw [beginReconnectAttempt_eq]
        split_ifs with busy
        · exact .stays (.of_link rfl (.of_eq rfl) .inl)
        · have reconnecting : core.state = .reconnecting := not_not.mp busy
          exact core.connecting_move ((core.cancelTimer .reconnect).cancelTimer .reconnect)
            (by rw [reconnecting]; rfl) rfl rfl rfl rfl (.inl rfl) fun _ => ⟨rfl, rfl, rfl⟩
    | capability => exact disarmed (.of_negotiated (onCapabilityTimeout_negotiated _))
    | registration =>
        refine disarmed ?_
        simp only
        unfold onRegistrationTimeout
        split
        · exact .refl _
        · exact .fail _ _ _ _
    | ping => exact disarmed (onPingWatchdogFired_kept _)
    | label => exact disarmed (.of_peripheral (onLabelTimerFired_peripheral _))

variable [Platform]

/-- Every line leaves the port and TLS, or gives a plaintext connection up. -/
theorem handleFrame_move (frame : Bytes) (settled : core.state ≠ .stsUpgrading) :
    LinkKept True core (core.handleFrame frame) ∨
      ∃ port, Upgraded core port (core.handleFrame frame) := by
  have change := core.handleFrame_change frame settled
  revert change
  generalize core.handleFrame frame = changed
  intro change
  cases change with
  | handshake change => exact .inl (.of_handshake change)
  | settles taken command silent sts change => exact .inl (.of_sts trivial sts change)
  | upgrades taken command advertised upgrade => exact .inr ⟨_, upgrade⟩
  | @watchdog message =>
      have kept : (core.reportInbound message).armPingWatchdog.link = core.link ∧
          (core.reportInbound message).armPingWatchdog.state = core.state := by
        rcases (core.reportInbound message).armPingWatchdog_toControl with kept | ⟨-, armed⟩
        · exact ⟨(congrArg Control.link kept :), (congrArg Control.state kept :)⟩
        · exact ⟨(congrArg Control.link armed :), (congrArg Control.state armed :)⟩
      exact .inl (.of_link kept.1 (.of_eq (by simp [reportInbound])) fun resting =>
        .inl (kept.2 ▸ resting))
  | welcomes taken command running settled welcome =>
      obtain ⟨frames, queued, framed⟩ := welcome.writes
      have control := welcome.control
      refine .inl
        { config := (congrArg Control.config control :)
          transport := (congrArg Control.transport control :)
          port := (congrArg Control.port control :)
          tls := (congrArg Control.tlsEnabled control :)
          policies := .kept (congrArg Control.stsOperations control :)
            (.inl (congrArg Control.stsDuration control :))
          queued := (Queues.of_frames queued framed).mono fun _ => Effect.IsPlain.not_connect
          rests := fun resting => ?_ }
      rw [(congrArg Control.state control :)] at resting
      cases resting
  | retries text finished =>
      exact .inl ((LinkKept.fail _ _ _ _).after rfl (fun resting => resting) (.of_eq rfl))

omit [Platform] in
/-- The negotiation begins with CAP LS. -/
theorem beginCapabilityNegotiation_kept {heard : Prop} :
    LinkKept heard core core.beginCapabilityNegotiation := by
  have queued := core.beginCapabilityNegotiation_queues
  refine .of_link ?_ (queued.mono fun _ => Effect.IsPlain.not_connect) fun resting => ?_
  · rw [Control.link, beginCapabilityNegotiation, armTimer_toControl, sendLine_toControl,
      setState_toControl]
    rfl
  · have state : core.beginCapabilityNegotiation.state = .capLs := by
      simp [beginCapabilityNegotiation]
    rw [state] at resting
    cases resting

/-- The transport of an entry: it ends, or goes on with the connection in flight. -/
structure TransportMove (before after : Transport) : Prop where
  tls : after.tlsOn = before.tlsOn
  inFlight : after.state.inFlight = true → before.state.inFlight = true
  closing : before.state ≠ .closing → after.state ≠ .closing

omit [Platform] in
theorem TransportMove.refl (transport : Transport) : TransportMove transport transport :=
  ⟨rfl, id, id⟩

/-- Every entry point leaves the port and TLS, or asks for a connection. -/
theorem entry_move {action : Action} {entered : Core} (entry : Entry core action entered) :
    ∃ transport, TransportMove core.transport transport ∧
      LinkMove (core.withTransport transport) action entered := by
  have stays (kept : LinkKept False core entered) :
      ∃ transport, TransportMove core.transport transport ∧
        LinkMove (core.withTransport transport) action entered :=
    ⟨core.transport, .refl _, .stays kept⟩
  cases entry with
  | start => exact ⟨core.transport, .refl _, core.start_move⟩
  | stop => exact stays core.stop_kept
  | quit reason =>
      refine stays ?_
      unfold quit
      split
      · exact .refl core
      · split
        · have sent := core.sendText_peripheral (if reason = "" then "QUIT" else "QUIT :" ++ reason)
          generalize core.sendText (if reason = "" then "QUIT" else "QUIT :" ++ reason) = result
            at sent
          obtain ⟨written, taken⟩ := result
          have kept : LinkKept False core written := .of_peripheral sent
          cases taken with
          | true =>
              exact written.stop_kept.after (congrArg Control.link sent.control)
                (fun resting => sent.state ▸ resting) kept.queued
          | false => exact kept
        · exact core.stop_kept
  | send operation => exact stays (.of_peripheral (core.send_peripheral operation))
  | startLabeledRequest =>
      refine stays ?_
      unfold startLabeledRequest
      split
      · exact .refl core
      · exact .of_peripheral core.beginLabeledRequest_peripheral
  | cancelRequestLabel label =>
      exact stays (.of_peripheral (core.dropRequestLabel_peripheral label))
  | setOwnMetadata key value =>
      exact stays (.of_peripheral (core.setOwnMetadata_peripheral key value))
  | queueReadMarkerSet target time =>
      exact stays (.of_peripheral (core.queueReadMarkerSet_peripheral target time))
  | notifyReachable => exact ⟨core.transport, .refl _, core.beginReconnectAttempt_move _⟩
  | setIgnoreFilter filter => exact stays (.of_link rfl (.of_eq rfl) .inl)
  | setHistoryResume resume => exact stays (.of_link rfl (.of_eq rfl) .inl)
  | connected connecting =>
      refine ⟨{ core.transport with state := .connected }, ⟨rfl, fun _ => ?_, fun _ => nofun⟩, ?_⟩
      · rw [connecting]
        rfl
      · unfold onConnected
        split
        · exact .stays (beginCapabilityNegotiation_kept _)
        · exact .stays (.refl _)
  | encrypted connected tls =>
      refine ⟨{ core.transport with state := .encrypted }, ⟨rfl, fun _ => ?_, fun _ => nofun⟩, ?_⟩
      · rw [connected]
        rfl
      · unfold onEncrypted
        split
        · exact .stays (beginCapabilityNegotiation_kept _)
        · exact .stays (.refl _)
  | closed isOpen =>
      exact ⟨{ core.transport with state := .disconnected }, ⟨rfl, nofun, fun _ => nofun⟩,
        onDisconnected_move _ _ rfl⟩
  | transportFailed error inFlight =>
      refine ⟨{ core.transport with state := .failed }, ⟨rfl, nofun, fun _ => nofun⟩, ?_⟩
      unfold errorOccurred
      split
      · exact .stays (.refl _)
      · exact .stays (.fail _ _ _ _)
  | silentRead bytes delivers framesless =>
      obtain ⟨⟨framer, ping, control⟩, -, effects⟩ := System.beginRead_begun core bytes
      have state : (core.beginRead bytes).1.state = core.state := (congrArg Control.state control :)
      exact stays (.of_link (congrArg Control.link control :) (.of_eq effects)
        fun resting => .inl (state ▸ resting))
  | timerFired slot id => exact ⟨core.transport, .refl _, core.timerFired_move slot id⟩
  | metadataRetry target =>
      exact stays ((LinkKept.of_peripheral (sendCommand_peripheral _ _ _)).after rfl
        (fun resting => resting) (.of_eq rfl))

end Core

end Omairc.Session
