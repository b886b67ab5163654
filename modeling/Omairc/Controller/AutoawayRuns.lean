import Mathlib.Data.List.Basic
import Omairc.Controller.Autoaway
import Omairc.Semantics.Execution

/-!
# Auto-away over whole runs

Whatever the timers, the user, the sessions and the server do, auto-away leaves the networks
that are away by hand alone. The first drain of an activity still runs what is queued, so a
grace expiry that waits there trips auto-away once more before the activity clears it.
-/

namespace Omairc.Autoaway

open Omairc.Text Omairc.Irc

/-- What happens. An act drains the queues several times; `pumps` says what each drain finds. -/
inductive Act
  | fires (expiry : Expiry) (generation : Nat)
  | tick (found : Pump)
  | localActivity (pumps : Nat → Pump)
  | autoaway (request : AutoawayRequest) (pumps : Nat → Pump)
  | away (networkId reason : String) (pumps : Nat → Pump)
  | back (networkId : String) (pumps : Nat → Pump)
  | chat (networkId : String) (sent : Bool) (pumps : Nat → Pump)
  | forget (networkId : String) (pumps : Nat → Pump)

/-- Whether a request restarts or stops the timers. -/
def restartsTimers (config : AutoawayConfig) : AutoawayKind → Bool
  | .disable | .setTimeout => true
  | .enableOn => decide (autoawayMinTimeoutSeconds ≤ config.timeoutSeconds)
  | _ => false

namespace Act

/-- Whether an act is activity of the user. -/
def isActivity : Act → Bool
  | .localActivity _ => true
  | .chat _ sent _ => sent
  | _ => false

/-- Whether what is queued when an act begins was queued for timers that it restarts. -/
def restarts (act : Act) (config : AutoawayConfig) : Bool :=
  match act with
  | .autoaway request _ => restartsTimers config request.kind
  | act => act.isActivity

end Act

namespace Runtime

/-- A controller that has just started, with the saved settings. -/
def start (config : AutoawayConfig) : Runtime where
  state := { config }

/-- From here on, what is queued is late. -/
def outdate (runtime : Runtime) : Runtime :=
  { runtime with late := runtime.state.expiries.length }

/-- The body of an act. -/
def perform (runtime : Runtime) : Act → Runtime
  | .fires expiry generation =>
      runtime.onState fun state =>
        { state with expiries := state.expiries ++ [(expiry, generation)] }
  | .tick found => runtime.pump found
  | .localActivity pumps => runtime.noteLocalActivity (pumps 0) (pumps 1)
  | .autoaway request pumps =>
      ((runtime.pump (pumps 0)).autoawayCommand request (pumps 1) (pumps 2)).1.pump (pumps 3)
  | .away networkId reason pumps => ((runtime.pump (pumps 0)).away networkId reason).1.pump (pumps 1)
  | .back networkId pumps => ((runtime.pump (pumps 0)).back networkId).1.pump (pumps 1)
  | .chat networkId sent pumps =>
      let runtime := runtime.pump (pumps 0)
      let runtime :=
        if sent then runtime.noteChatSent networkId (pumps 1) (pumps 2) (pumps 3) (pumps 4)
        else runtime
      runtime.pump (pumps 5)
  | .forget networkId pumps => ((runtime.pump (pumps 0)).forgetNetwork networkId).pump (pumps 1)

/-- One act. A callback only comes from a timer that was armed. -/
def step (runtime : Runtime) (act : Act) : Option Runtime :=
  match act with
  | .fires expiry generation =>
      if (expiry, generation) ∈ runtime.armed then some (runtime.perform act) else none
  | act =>
      some ((if act.restarts runtime.state.config then runtime.outdate else runtime).perform act)

end Runtime

/-- No grace expiry of the running window waits in the queue when the timers are restarted. -/
def NoGraceWaits (runtime : Runtime) (act : Act) : Prop :=
  act.restarts runtime.state.config = true →
    (Expiry.grace, runtime.state.generation) ∉ runtime.state.expiries

instance (runtime : Runtime) (act : Act) : Decidable (NoGraceWaits runtime act) :=
  inferInstanceAs (Decidable (_ → _))

/-! ## The invariant -/

@[simp] theorem mem_insertName {names : List String} {name other : String} :
    other ∈ insertName names name ↔ other = name ∨ other ∈ names := by
  unfold insertName
  split
  · rename_i there
    constructor
    · exact .inr
    · rintro (rfl | listed)
      · exact there
      · exact listed
  · exact List.mem_orderedInsert _

@[simp] theorem mem_removeName {names : List String} {name other : String} :
    other ∈ removeName names name ↔ other ∈ names ∧ other ≠ name := by
  simp [removeName]

/-- Whether auto-away decided on a line by itself. -/
def Cause.automatic : Cause → Bool
  | .chat | .user => false
  | _ => true

/-- The networks that are away by hand and by the timer are apart, auto-away wrote to none that
was away by hand, and no callback is ahead of the generation. -/
structure Lawful (runtime : Runtime) : Prop where
  apart : ∀ networkId ∈ runtime.state.autoAway, networkId ∉ runtime.state.manualAway
  spared : ∀ line ∈ runtime.written, line.cause.automatic = true → line.manual = false
  armed : ∀ callback ∈ runtime.armed, callback.2 ≤ runtime.state.generation
  queued : ∀ callback ∈ runtime.state.expiries, callback.2 ≤ runtime.state.generation

/-- One controller follows another: it is lawful when the other is, nothing was taken from the
queue, and auto-away did not trip. -/
structure Follows (before after : Runtime) : Prop where
  lawful : Lawful before → Lawful after
  expiries : after.state.expiries = before.state.expiries
  late : after.late = before.late
  trips : after.trips = before.trips

namespace Follows

variable {first second third runtime : Runtime}

theorem refl (runtime : Runtime) : Follows runtime runtime := ⟨id, rfl, rfl, rfl⟩

theorem trans (left : Follows first second) (right : Follows second third) :
    Follows first third where
  lawful := right.lawful ∘ left.lawful
  expiries := right.expiries.trans left.expiries
  late := right.late.trans left.late
  trips := right.trips.trans left.trips

/-- A change of the state that keeps the queue and the two sets apart. -/
theorem onState {change : AutoawayState → AutoawayState}
    (expiries : (change runtime.state).expiries = runtime.state.expiries)
    (generation : runtime.state.generation ≤ (change runtime.state).generation)
    (apart : (∀ networkId ∈ runtime.state.autoAway, networkId ∉ runtime.state.manualAway) →
      ∀ networkId ∈ (change runtime.state).autoAway,
        networkId ∉ (change runtime.state).manualAway) :
    Follows runtime (runtime.onState change) where
  lawful lawful :=
    { apart := apart lawful.apart
      spared := lawful.spared
      armed := fun callback listed => (lawful.armed callback listed).trans generation
      queued := fun callback listed =>
        (lawful.queued callback (expiries ▸ listed)).trans generation }
  expiries := expiries
  late := rfl
  trips := rfl

/-- A line for a network that is not away by hand. -/
theorem write {cause : Cause} {networkId : String}
    (free : cause.automatic = true → networkId ∉ runtime.state.manualAway) (line : String) :
    Follows runtime (runtime.write cause networkId line) where
  lawful lawful :=
    { lawful with
      spared := by
        intro written listed automatic
        rcases List.mem_append.mp listed with earlier | now
        · exact lawful.spared written earlier automatic
        · rw [List.mem_singleton] at now
          subst now
          exact decide_eq_false (free automatic) }
  expiries := rfl
  late := rfl
  trips := rfl

/-- A line that the user asked for. -/
theorem asked {cause : Cause} (manual : cause.automatic = false) {networkId line : String} :
    Follows runtime (runtime.write cause networkId line) :=
  write (fun automatic => by rw [manual] at automatic; cases automatic) line

theorem recordStatus (runtime : Runtime) (networkId text : String) :
    Follows runtime (runtime.recordStatus networkId text) := by
  unfold Runtime.recordStatus
  split
  · exact .refl runtime
  · exact ⟨fun lawful => { lawful with }, rfl, rfl, rfl⟩

/-- A session that is not away by hand may be marked. -/
theorem markSession {networkId : String} (free : networkId ∉ runtime.state.manualAway)
    (cause : Cause) (link : AwayLink) :
    Follows runtime (runtime.markSession cause networkId link).1 := by
  unfold Runtime.markSession
  dsimp only
  split
  · exact .refl runtime
  split
  · exact .refl runtime
  · have written := write (fun _ : cause.automatic = true => free)
      (markAwayLine runtime.state.reason)
    refine written.trans (onState rfl le_rfl ?_ : Follows _ (Runtime.onState _ fun state =>
      { state with autoAway := insertName state.autoAway networkId }))
    intro apart other listed
    rcases mem_insertName.mp listed with rfl | earlier
    · exact free
    · exact apart other earlier

theorem tripNetwork (runtime : Runtime) (status networkId : String) :
    Follows runtime (Runtime.tripNetwork status runtime networkId) := by
  unfold Runtime.tripNetwork
  split
  · exact .refl runtime
  rename_i eligible
  have free : networkId ∉ runtime.state.manualAway := fun manual => eligible (.inr (.inl manual))
  split
  · exact .refl runtime
  · rename_i link _
    have marked := markSession free .trip link
    dsimp only
    split
    · exact marked.trans (recordStatus ..)
    · exact marked

/-- What each member of a list keeps, the whole list keeps. -/
theorem foldl {step : Runtime → String → Runtime}
    (keeps : ∀ runtime networkId, Follows runtime (step runtime networkId)) (names : List String)
    (runtime : Runtime) : Follows runtime (names.foldl step runtime) := by
  induction names generalizing runtime with
  | nil => exact .refl runtime
  | cons name rest inductionHypothesis =>
      exact (keeps runtime name).trans (inductionHypothesis _)

/-- A step over networks that are not away by hand, which moves none there. -/
theorem foldl_free {step : Runtime → String → Runtime}
    (keeps : ∀ runtime networkId, networkId ∉ runtime.state.manualAway →
      Follows runtime (step runtime networkId))
    (manual : ∀ runtime networkId,
      (step runtime networkId).state.manualAway = runtime.state.manualAway)
    {names : List String} (runtime : Runtime)
    (free : ∀ networkId ∈ names, networkId ∉ runtime.state.manualAway) :
    Follows runtime (names.foldl step runtime) := by
  induction names generalizing runtime with
  | nil => exact .refl runtime
  | cons name rest inductionHypothesis =>
      refine (keeps runtime name (free name List.mem_cons_self)).trans (inductionHypothesis _ ?_)
      intro other listed
      rw [manual]
      exact free other (List.mem_cons_of_mem name listed)

theorem forgetNetwork (runtime : Runtime) (networkId : String) :
    Follows runtime (runtime.forgetNetwork networkId) := by
  refine onState rfl le_rfl fun apart other listed manual => ?_
  exact apart other (mem_removeName.mp listed).1 (mem_removeName.mp manual).1

/-- A network that has just registered is not away by hand. -/
theorem onRegistered {networkId : String} (free : networkId ∉ runtime.state.manualAway) :
    Follows runtime (runtime.onRegistered networkId) := by
  unfold Runtime.onRegistered
  split
  · split
    · exact .refl runtime
    · exact markSession free ..
  · exact .refl runtime

theorem handleEvent (runtime : Runtime) (event : SessionEvent) :
    Follows runtime (runtime.handleEvent event) := by
  cases event with
  | welcome networkId =>
      rw [Runtime.handleEvent]
      split
      · exact .refl runtime
      · -- The welcome forgets the network before it may be marked.
        refine (forgetNetwork runtime networkId).trans (onRegistered fun manual => ?_)
        exact (mem_removeName.mp manual).2 rfl
  | selfAway networkId =>
      rw [Runtime.handleEvent]
      exact onState rfl le_rfl id
  | other => exact .refl runtime

/-- Only the world is new. -/
theorem world (runtime : Runtime) (world : World) : Follows runtime { runtime with world } :=
  ⟨fun lawful => { lawful with }, rfl, rfl, rfl⟩

theorem events (runtime : Runtime) (events : List (SessionEvent × World)) :
    Follows runtime (events.foldl (fun runtime (event, world) =>
      { runtime.handleEvent event with world }) runtime) := by
  induction events generalizing runtime with
  | nil => exact .refl runtime
  | cons event rest inductionHypothesis =>
      exact ((handleEvent runtime event.1).trans (world _ event.2)).trans (inductionHypothesis _)

theorem stopTimers (runtime : Runtime) :
    Follows runtime (runtime.onState AutoawayState.stopTimers) :=
  onState rfl (Nat.le_succ _) id

/-- A timer is armed under the generation of now. -/
theorem arm (runtime : Runtime) (expiry : Expiry) {change : AutoawayState → AutoawayState}
    (kept : Follows runtime (runtime.onState change))
    (generation : (change runtime.state).generation = runtime.state.generation) :
    Follows runtime { runtime.onState change with
      armed := runtime.armed ++ [(expiry, runtime.state.generation)] } where
  lawful lawful :=
    { kept.lawful lawful with
      armed := by
        intro callback listed
        show callback.2 ≤ (change runtime.state).generation
        rw [generation]
        rcases List.mem_append.mp listed with earlier | now
        · exact lawful.armed callback earlier
        · rw [List.mem_singleton] at now
          rw [now] }
  expiries := kept.expiries
  late := kept.late
  trips := kept.trips

theorem armIdle (runtime : Runtime) : Follows runtime runtime.armIdle := by
  unfold Runtime.armIdle
  dsimp only
  split
  · exact stopTimers runtime
  · exact (stopTimers runtime).trans (arm _ .idle (onState rfl le_rfl id) rfl)

theorem markUnawaySent (runtime : Runtime) (networkId : String) :
    Follows runtime (runtime.markUnawaySent networkId) :=
  onState rfl le_rfl id

theorem dropOneShot (runtime : Runtime) :
    Follows runtime (runtime.onState AutoawayState.dropOneShot) :=
  onState rfl le_rfl id

theorem clearNetwork {networkId : String} (free : networkId ∉ runtime.state.manualAway)
    (logCleared : Bool) : Follows runtime (Runtime.clearNetwork logCleared runtime networkId) := by
  unfold Runtime.clearNetwork
  split
  · exact .refl runtime
  split
  · have cleared : Follows runtime
        ((runtime.write .clear networkId clearAwayLine).markUnawaySent networkId) :=
      (write (fun _ => free) _).trans (markUnawaySent ..)
    dsimp only
    split
    · exact cleared.trans (recordStatus ..)
    · exact cleared
  · exact .refl runtime

/-- The networks that auto-away marked may be brought back: none is away by hand. -/
theorem clearNetworks
    (apart : ∀ networkId ∈ runtime.state.autoAway, networkId ∉ runtime.state.manualAway)
    (logCleared : Bool) : Follows runtime (runtime.clearNetworks logCleared) := by
  have emptied : Follows runtime (runtime.onState fun state =>
      { state with tripped := false, autoAway := [] }) :=
    onState rfl le_rfl fun _ _ listed => absurd listed List.not_mem_nil
  refine emptied.trans (.trans (foldl_free ?_ ?_ _ apart) (dropOneShot _))
  · exact fun runtime networkId free => clearNetwork free logCleared
  · intro runtime networkId
    unfold Runtime.clearNetwork
    split
    · rfl
    split
    · dsimp only
      split
      · unfold Runtime.recordStatus
        split
        · rfl
        · rfl
      · rfl
    · rfl

theorem refreshNetwork {networkId : String} (free : networkId ∉ runtime.state.manualAway) :
    Follows runtime (runtime.refreshNetwork networkId) := by
  unfold Runtime.refreshNetwork
  split
  · exact .refl runtime
  dsimp only
  split
  · exact write (fun _ => free) _
  · exact .refl runtime

theorem refreshReason
    (apart : ∀ networkId ∈ runtime.state.autoAway, networkId ∉ runtime.state.manualAway) :
    Follows runtime runtime.refreshReason := by
  unfold Runtime.refreshReason
  split
  · exact .refl runtime
  · refine foldl_free (fun runtime networkId free => refreshNetwork free) ?_ _ apart
    intro runtime networkId
    unfold Runtime.refreshNetwork
    split
    · rfl
    dsimp only
    split
    · rfl
    · rfl

theorem bringBack (lawful : Lawful runtime) : Follows runtime runtime.bringBack := by
  have calmed : Follows runtime (runtime.onState fun state => { state with tripped := false }) :=
    onState rfl le_rfl id
  unfold Runtime.bringBack
  dsimp only
  split
  · refine calmed.trans (clearNetworks ?_ true)
    exact lawful.apart
  split
  · exact calmed.trans (dropOneShot _)
  · exact calmed

theorem activity (lawful : Lawful runtime) : Follows runtime runtime.activity := by
  unfold Runtime.activity
  dsimp only
  split
  · exact (bringBack lawful).trans (armIdle _)
  · exact bringBack lawful

theorem noteManualAway (runtime : Runtime) (networkId : String) :
    Follows runtime (runtime.noteManualAway networkId) := by
  refine onState rfl le_rfl fun apart other listed manual => ?_
  obtain ⟨marked, different⟩ := mem_removeName.mp listed
  rcases mem_insertName.mp manual with rfl | earlier
  · exact different rfl
  · exact apart other marked earlier

theorem noteAwayCleared (runtime : Runtime) (networkId : String) :
    Follows runtime (runtime.noteAwayCleared networkId) := by
  have cleared : Follows runtime (runtime.onState fun state =>
      { state with
        autoAway := removeName state.autoAway networkId
        manualAway := removeName state.manualAway networkId }) := by
    refine onState rfl le_rfl fun apart other listed manual => ?_
    exact apart other (mem_removeName.mp listed).1 (mem_removeName.mp manual).1
  unfold Runtime.noteAwayCleared
  dsimp only
  split
  · exact cleared.trans (dropOneShot _)
  · exact cleared

theorem unawayAfterChat (runtime : Runtime) (networkId : String) :
    Follows runtime (runtime.unawayAfterChat networkId) := by
  unfold Runtime.unawayAfterChat
  split
  · exact .refl runtime
  split
  · exact .refl runtime
  split
  · exact ((asked rfl).trans (markUnawaySent ..)).trans (noteAwayCleared ..)
  · exact .refl runtime

theorem away (runtime : Runtime) (networkId reason : String) :
    Follows runtime (runtime.away networkId reason).1 := by
  unfold Runtime.away
  split
  · exact .refl runtime
  dsimp only
  split
  · exact .refl runtime
  split
  · exact (asked rfl).trans (noteAwayCleared ..)
  · exact (asked rfl).trans (noteManualAway ..)

theorem back (runtime : Runtime) (networkId : String) :
    Follows runtime (runtime.back networkId).1 := by
  unfold Runtime.back
  split
  · exact .refl runtime
  split
  · exact .refl runtime
  · exact (asked rfl).trans (noteAwayCleared ..)

theorem configure (runtime : Runtime) (change : AutoawayConfig → AutoawayConfig) :
    Follows runtime (runtime.configure change) :=
  onState rfl le_rfl id

theorem rearm (runtime : Runtime) : Follows runtime runtime.rearm := by
  unfold Runtime.rearm
  split
  · exact armIdle runtime
  · exact .refl runtime

theorem disable (lawful : Lawful runtime) : Follows runtime runtime.disable := by
  have stopped : Follows (runtime.configure fun config => { config with enabled := false })
      ((runtime.configure fun config => { config with enabled := false }).onState fun state =>
        { state.stopTimers with tripped := false }) :=
    onState rfl (Nat.le_succ _) id
  refine ((configure runtime _).trans stopped).trans (clearNetworks ?_ false)
  exact lawful.apart

theorem applyRequest (lawful : Lawful runtime) {request : AutoawayRequest} {after : Runtime}
    (applied : runtime.applyRequest request = some after) : Follows runtime after := by
  unfold Runtime.applyRequest at applied
  split at applied
  · cases applied
  · cases applied
    exact .refl runtime
  · cases applied
    exact disable lawful
  · split at applied
    · cases applied
    · cases applied
      exact (configure ..).trans (rearm _)
  · cases applied
    exact (configure ..).trans (rearm _)
  · cases applied
    exact configure ..
  · cases applied
    exact configure ..

end Follows

/-! ## The expiries -/

section Expiries

variable {runtime next : Runtime}

/-- Nothing in the queue is late, and no trip was. -/
structure Punctual (runtime : Runtime) : Prop where
  late : runtime.late = 0
  trips : ∀ late ∈ runtime.trips, late = false

theorem Punctual.follows (punctual : Punctual runtime) (follows : Follows runtime next) :
    Punctual next :=
  ⟨follows.late.trans punctual.late, fun late listed => punctual.trips late (follows.trips ▸ listed)⟩

/-- The idle expiry opens the grace window or does nothing. It never trips at once, since every
accepted timeout has a grace period. -/
theorem onIdle_cases (runtime : Runtime) :
    runtime.onIdle = runtime ∨
      Follows runtime runtime.onIdle ∧
        runtime.onIdle.state.generation = runtime.state.generation + 1 := by
  unfold Runtime.onIdle
  split
  · exact .inl rfl
  rename_i accepted
  rw [not_or, not_lt] at accepted
  have least : (30 : Int) ≤ runtime.state.config.timeoutSeconds := accepted.2
  have grace : ¬autoawayGraceSeconds runtime.state.config.timeoutSeconds ≤ 0 :=
    not_le.mpr (autoawayGraceSeconds_pos (by omega))
  dsimp only
  split
  · rename_i none
    exact absurd none grace
  · have opened : Follows runtime (runtime.onState fun state =>
        { state.stopTimers with graceArmed := true }) :=
      .onState rfl (Nat.le_succ _) id
    exact .inr ⟨opened.trans (.arm _ .grace (.onState rfl le_rfl id) rfl), rfl⟩

/-- A trip keeps the queue and the law, and says whether its expiry was late. -/
theorem trip_outcome (runtime : Runtime) :
    (Lawful runtime → Lawful runtime.trip) ∧
      runtime.trip.state.expiries = runtime.state.expiries ∧ runtime.trip.late = runtime.late ∧
      (runtime.trip.trips = runtime.trips ∨
        runtime.trip.trips = runtime.trips ++ [runtime.runsLate]) := by
  unfold Runtime.trip
  split
  · exact ⟨id, rfl, rfl, .inl rfl⟩
  · have marked := (Follows.foldl (fun current networkId => .tripNetwork current
        (formatAutoawayTrippedStatus (runtime.onState fun state =>
          { state with tripped := true }).state.reason) networkId)
      runtime.world.networkIds
      { runtime.onState (fun state => { state with tripped := true }) with
        trips := runtime.trips ++ [runtime.runsLate] }).trans (.stopTimers _)
    refine ⟨fun lawful => marked.lawful ?_, marked.expiries, marked.late, .inr marked.trips⟩
    exact { apart := lawful.apart, spared := lawful.spared, armed := lawful.armed,
            queued := lawful.queued }

/-- The end of the grace window does nothing, or trips. -/
theorem onGrace_outcome (runtime : Runtime) :
    (Lawful runtime → Lawful runtime.onGrace) ∧
      runtime.onGrace.state.expiries = runtime.state.expiries ∧
      runtime.onGrace.late = runtime.late ∧
      (runtime.onGrace.trips = runtime.trips ∨
        runtime.onGrace.trips = runtime.trips ++ [runtime.runsLate]) := by
  unfold Runtime.onGrace
  split
  · exact ⟨id, rfl, rfl, .inl rfl⟩
  · obtain ⟨lawful, expiries, late, trips⟩ :=
      trip_outcome (runtime.onState AutoawayState.stopTimers)
    have stopped := Follows.stopTimers runtime
    exact ⟨lawful ∘ stopped.lawful, expiries, late, trips⟩

theorem popExpiry_lawful {callback : Expiry × Nat} {rest : List (Expiry × Nat)}
    (queue : runtime.state.expiries = callback :: rest) (lawful : Lawful runtime) :
    Lawful (runtime.popExpiry rest) :=
  { lawful with
    queued := fun other listed =>
      lawful.queued other (queue ▸ List.mem_cons_of_mem callback listed) }

/-- A queued expiry is dropped, opens the grace window, or closes it. -/
theorem runExpiry_cons {expiry : Expiry} {generation : Nat} {rest : List (Expiry × Nat)}
    (queue : runtime.state.expiries = (expiry, generation) :: rest) :
    runtime.runExpiry = some (runtime.popExpiry rest) ∧ generation ≠ runtime.state.generation ∨
      runtime.runExpiry = some (runtime.popExpiry rest).onIdle ∧ expiry = .idle ∨
      runtime.runExpiry = some (runtime.popExpiry rest).onGrace ∧ expiry = .grace ∧
        generation = runtime.state.generation := by
  unfold Runtime.runExpiry
  rw [queue]
  dsimp only
  split
  · rename_i stale
    exact .inl ⟨rfl, stale⟩
  · rename_i current
    rw [not_not] at current
    cases expiry with
    | idle => exact .inr (.inl ⟨rfl, rfl⟩)
    | grace => exact .inr (.inr ⟨rfl, rfl, current⟩)

/-- What running one expiry takes from the queue and keeps. -/
theorem runExpiry_outcome {callback : Expiry × Nat} {rest : List (Expiry × Nat)}
    (queue : runtime.state.expiries = callback :: rest) :
    ∃ next, runtime.runExpiry = some next ∧ next.state.expiries = rest ∧
      next.late = runtime.late - 1 ∧ (Lawful runtime → Lawful next) ∧
      (next.trips = runtime.trips ∨
        next.trips = runtime.trips ++ [decide (0 < runtime.late)]) := by
  have popped := popExpiry_lawful queue
  obtain ⟨expiry, generation⟩ := callback
  rcases runExpiry_cons queue with ⟨ran, _⟩ | ⟨ran, _⟩ | ⟨ran, _⟩
  · exact ⟨_, ran, rfl, rfl, popped, .inl rfl⟩
  · refine ⟨_, ran, ?_⟩
    rcases onIdle_cases (runtime.popExpiry rest) with same | ⟨follows, _⟩
    · rw [same]
      exact ⟨rfl, rfl, popped, .inl rfl⟩
    · exact ⟨follows.expiries, follows.late, follows.lawful ∘ popped, .inl follows.trips⟩
  · obtain ⟨lawful, expiries, late, trips⟩ := onGrace_outcome (runtime.popExpiry rest)
    exact ⟨_, ran, expiries, late, lawful ∘ popped, trips⟩

/-- Running as many expiries as are queued empties the queue. -/
theorem runExpiries_outcome (count : Nat) (runtime : Runtime)
    (queued : runtime.state.expiries.length = count) :
    (Runtime.runExpiries count runtime).state.expiries = [] ∧
      (Runtime.runExpiries count runtime).late = runtime.late - count ∧
      (Lawful runtime → Lawful (Runtime.runExpiries count runtime)) ∧
      (Punctual runtime → Punctual (Runtime.runExpiries count runtime)) := by
  induction count generalizing runtime with
  | zero => exact ⟨List.length_eq_zero_iff.mp queued, rfl, id, id⟩
  | succ count inductionHypothesis =>
      obtain ⟨callback, rest, queue⟩ := List.exists_cons_of_length_eq_add_one queued
      obtain ⟨next, ran, left, late, lawful, trips⟩ := runExpiry_outcome queue
      have fewer : next.state.expiries.length = count := by
        rw [left]
        rw [queue, List.length_cons] at queued
        omega
      obtain ⟨empty, least, keeps, punctual⟩ := inductionHypothesis next fewer
      rw [Runtime.runExpiries, ran]
      refine ⟨empty, least.trans ?_, keeps ∘ lawful, fun before => punctual ⟨?_, ?_⟩⟩
      · rw [late]
        omega
      · rw [late, before.late]
      · intro tripped listed
        rcases trips with same | one
        · exact before.trips tripped (same ▸ listed)
        · rw [one, before.late, List.mem_append] at listed
          rcases listed with earlier | now
          · exact before.trips tripped earlier
          · exact List.mem_singleton.mp now

/-- When no grace expiry of the running window waits, nothing that is queued trips. -/
theorem runExpiries_trips (count : Nat) (runtime : Runtime) (lawful : Lawful runtime)
    (waits : (Expiry.grace, runtime.state.generation) ∉ runtime.state.expiries) :
    (Runtime.runExpiries count runtime).trips = runtime.trips := by
  induction count generalizing runtime with
  | zero => rfl
  | succ count inductionHypothesis =>
      cases queue : runtime.state.expiries with
      | nil => rw [Runtime.runExpiries, Runtime.runExpiry, queue]
      | cons callback rest =>
          obtain ⟨expiry, generation⟩ := callback
          have behind : (Expiry.grace, runtime.state.generation) ∉ rest := fun listed =>
            waits (queue ▸ List.mem_cons_of_mem _ listed)
          have popped := popExpiry_lawful queue lawful
          rcases runExpiry_cons queue with ⟨ran, _⟩ | ⟨ran, _⟩ | ⟨ran, rfl, rfl⟩
          · rw [Runtime.runExpiries, ran]
            exact inductionHypothesis _ popped behind
          · rw [Runtime.runExpiries, ran]
            rcases onIdle_cases (runtime.popExpiry rest) with same | ⟨follows, opened⟩
            · rw [same]
              exact inductionHypothesis _ popped behind
            · -- The window that opens is a new generation, ahead of whatever is queued.
              refine (inductionHypothesis _ (follows.lawful popped) fun listed => ?_).trans
                follows.trips
              rw [follows.expiries, opened] at listed
              exact absurd (popped.queued _ listed) (Nat.not_succ_le_self _)
          · exact absurd (queue ▸ List.mem_cons_self) waits

/-- A drain empties the queue and keeps the law. -/
theorem pump_outcome (runtime : Runtime) (found : Pump) :
    (runtime.pump found).state.expiries = [] ∧
      (runtime.pump found).late = runtime.late - runtime.state.expiries.length ∧
      (Lawful runtime → Lawful (runtime.pump found)) ∧
      (Punctual runtime → Punctual (runtime.pump found)) := by
  obtain ⟨empty, late, lawful, punctual⟩ :=
    runExpiries_outcome runtime.state.expiries.length { runtime with world := found.world } rfl
  have events := (Follows.events (Runtime.runExpiries runtime.state.expiries.length
    { runtime with world := found.world }) found.events).trans (.world _ found.after)
  have found := Follows.world runtime found.world
  exact ⟨events.expiries.trans empty, events.late.trans late,
    fun before => events.lawful (lawful (found.lawful before)),
    fun before => (punctual (before.follows found)).follows events⟩

theorem pump_trips (lawful : Lawful runtime) (found : Pump)
    (waits : (Expiry.grace, runtime.state.generation) ∉ runtime.state.expiries) :
    (runtime.pump found).trips = runtime.trips := by
  have events := (Follows.events (Runtime.runExpiries runtime.state.expiries.length
    { runtime with world := found.world }) found.events).trans (.world _ found.after)
  exact events.trips.trans
    (runExpiries_trips _ { runtime with world := found.world }
      ((Follows.world runtime found.world).lawful lawful) waits)

end Expiries

/-! ## After an activity -/

/-- Auto-away has not tripped, and no network is away by it. -/
structure Calm (runtime : Runtime) : Prop where
  tripped : runtime.state.tripped = false
  autoAway : runtime.state.autoAway = []

namespace Calm

variable {runtime : Runtime}

theorem forgetNetwork (calm : Calm runtime) (networkId : String) :
    Calm (runtime.forgetNetwork networkId) :=
  ⟨calm.tripped, by
    show removeName runtime.state.autoAway networkId = []
    rw [calm.autoAway]
    rfl⟩

theorem handleEvent (calm : Calm runtime) (event : SessionEvent) :
    Calm (runtime.handleEvent event) := by
  cases event with
  | welcome networkId =>
      rw [Runtime.handleEvent]
      split
      · exact calm
      · have untripped : (runtime.forgetNetwork networkId).state.tripped = false := calm.tripped
        rw [Runtime.onRegistered, untripped]
        exact calm.forgetNetwork networkId
  | selfAway networkId => exact ⟨calm.tripped, calm.autoAway⟩
  | other => exact calm

/-- With an empty queue a drain keeps the calm. -/
theorem pump (calm : Calm runtime) (empty : runtime.state.expiries = []) (found : Pump) :
    Calm (runtime.pump found) := by
  have drained : ∀ (events : List (SessionEvent × World)) (current : Runtime), Calm current →
      Calm (events.foldl (fun runtime (event, world) =>
        { runtime.handleEvent event with world }) current) := by
    intro events
    induction events with
    | nil => exact fun current before => before
    | cons event rest inductionHypothesis =>
        intro current before
        have handled := before.handleEvent event.1
        exact inductionHypothesis _ ⟨handled.tripped, handled.autoAway⟩
  have started : Calm (Runtime.runExpiries runtime.state.expiries.length
      { runtime with world := found.world }) := by
    rw [empty]
    exact ⟨calm.tripped, calm.autoAway⟩
  have ended := drained found.events _ started
  exact ⟨ended.tripped, ended.autoAway⟩

theorem clearNetwork (calm : Calm runtime) (logCleared : Bool) (networkId : String) :
    Calm (Runtime.clearNetwork logCleared runtime networkId) := by
  unfold Runtime.clearNetwork
  split
  · exact calm
  split
  · dsimp only
    split
    · unfold Runtime.recordStatus
      split
      · exact ⟨calm.tripped, calm.autoAway⟩
      · exact ⟨calm.tripped, calm.autoAway⟩
    · exact ⟨calm.tripped, calm.autoAway⟩
  · exact calm

theorem clearNetworks (runtime : Runtime) (logCleared : Bool) :
    Calm (runtime.clearNetworks logCleared) := by
  have cleared : ∀ (networks : List String) (current : Runtime), Calm current →
      Calm (networks.foldl (Runtime.clearNetwork logCleared) current) := by
    intro networks
    induction networks with
    | nil => exact fun current before => before
    | cons networkId rest inductionHypothesis =>
        exact fun current before =>
          inductionHypothesis _ (before.clearNetwork logCleared networkId)
  have ended := cleared runtime.state.autoAway
    (runtime.onState fun state => { state with tripped := false, autoAway := [] }) ⟨rfl, rfl⟩
  exact ⟨ended.tripped, ended.autoAway⟩

/-- An activity leaves no network away by auto-away. -/
theorem activity (runtime : Runtime) : Calm runtime.activity := by
  have brought : Calm runtime.bringBack := by
    unfold Runtime.bringBack
    dsimp only
    split
    · exact clearNetworks ..
    rename_i none
    rw [not_not] at none
    split
    · exact ⟨rfl, none⟩
    · exact ⟨rfl, none⟩
  unfold Runtime.activity
  dsimp only
  split
  · unfold Runtime.armIdle
    dsimp only
    split
    · exact ⟨brought.tripped, brought.autoAway⟩
    · exact ⟨brought.tripped, brought.autoAway⟩
  · exact brought

theorem noteAwayCleared (calm : Calm runtime) (networkId : String) :
    Calm (runtime.noteAwayCleared networkId) := by
  have cleared : removeName runtime.state.autoAway networkId = [] := by
    rw [calm.autoAway]
    rfl
  unfold Runtime.noteAwayCleared
  dsimp only
  split
  · exact ⟨calm.tripped, cleared⟩
  · exact ⟨calm.tripped, cleared⟩

theorem unawayAfterChat (calm : Calm runtime) (networkId : String) :
    Calm (runtime.unawayAfterChat networkId) := by
  unfold Runtime.unawayAfterChat
  split
  · exact calm
  split
  · exact calm
  split
  · have told : Calm ((runtime.write .chat networkId clearAwayLine).markUnawaySent networkId) :=
      ⟨calm.tripped, calm.autoAway⟩
    exact told.noteAwayCleared networkId
  · exact calm

theorem noteLocalActivity (lawful : Lawful runtime) (before after : Pump) :
    Calm (runtime.noteLocalActivity before after) := by
  obtain ⟨empty, _, lawfully, _⟩ := pump_outcome runtime before
  refine (activity _).pump ?_ after
  exact (Follows.activity (lawfully lawful)).expiries.trans empty

end Calm

/-! ## Runs -/

/-- A change that keeps the law, and keeps a controller punctual. -/
def Keeps (change : Runtime → Runtime) : Prop :=
  ∀ runtime, Lawful runtime →
    Lawful (change runtime) ∧ (Punctual runtime → Punctual (change runtime))

namespace Keeps

theorem of_follows {change : Runtime → Runtime}
    (follows : ∀ runtime, Lawful runtime → Follows runtime (change runtime)) : Keeps change :=
  fun runtime lawful =>
    ⟨(follows runtime lawful).lawful lawful, fun punctual => punctual.follows (follows runtime lawful)⟩

theorem comp {first second : Runtime → Runtime} (left : Keeps first) (right : Keeps second) :
    Keeps fun runtime => second (first runtime) := by
  intro runtime lawful
  obtain ⟨between, punctually⟩ := left runtime lawful
  obtain ⟨after, onward⟩ := right _ between
  exact ⟨after, onward ∘ punctually⟩

theorem pump (found : Pump) : Keeps (·.pump found) := by
  intro runtime lawful
  obtain ⟨_, _, lawfully, punctually⟩ := pump_outcome runtime found
  exact ⟨lawfully lawful, punctually⟩

theorem noteLocalActivity (before after : Pump) : Keeps (·.noteLocalActivity before after) :=
  ((pump before).comp (of_follows fun _ => Follows.activity)).comp (pump after)

theorem noteChatSent (networkId : String) (opening before after closing : Pump) :
    Keeps (·.noteChatSent networkId opening before after closing) :=
  (((pump opening).comp (noteLocalActivity before after)).comp
    (of_follows fun runtime _ => .unawayAfterChat runtime networkId)).comp (pump closing)

theorem autoawayCommand (request : AutoawayRequest) (before after : Pump) :
    Keeps fun runtime => (runtime.autoawayCommand request before after).1 := by
  intro runtime lawful
  obtain ⟨pumped, punctually⟩ := pump before runtime lawful
  unfold Runtime.autoawayCommand
  dsimp only
  split
  · exact ⟨pumped, punctually⟩
  · rename_i applied done
    have follows := Follows.applyRequest pumped done
    have configured := follows.lawful pumped
    dsimp only
    split
    · have refreshed := Follows.refreshReason configured.apart
      obtain ⟨after, onward⟩ := pump after _ (refreshed.lawful configured)
      exact ⟨after, fun punctual => onward (((punctually punctual).follows follows).follows refreshed)⟩
    · obtain ⟨after, onward⟩ := pump after _ configured
      exact ⟨after, fun punctual => onward ((punctually punctual).follows follows)⟩

/-- An act that is not a callback drains the queue before anything else. -/
theorem perform {act : Act} (drains : ∀ expiry generation, act ≠ .fires expiry generation) :
    ∃ found rest, Keeps rest ∧
      ∀ runtime : Runtime, runtime.perform act = rest (runtime.pump found) := by
  have still : Keeps fun runtime => runtime := fun _ lawful => ⟨lawful, id⟩
  cases act with
  | fires expiry generation => exact absurd rfl (drains expiry generation)
  | tick found => exact ⟨found, _, still, fun _ => rfl⟩
  | localActivity pumps =>
      exact ⟨pumps 0, _, (of_follows fun _ => Follows.activity).comp (pump (pumps 1)), fun _ => rfl⟩
  | autoaway request pumps =>
      exact ⟨pumps 0, _, (autoawayCommand request (pumps 1) (pumps 2)).comp (pump (pumps 3)),
        fun _ => rfl⟩
  | away networkId reason pumps =>
      exact ⟨pumps 0, _,
        (of_follows fun runtime _ => .away runtime networkId reason).comp (pump (pumps 1)),
        fun _ => rfl⟩
  | back networkId pumps =>
      exact ⟨pumps 0, _, (of_follows fun runtime _ => .back runtime networkId).comp (pump (pumps 1)),
        fun _ => rfl⟩
  | chat networkId sent pumps =>
      cases sent with
      | true =>
          exact ⟨pumps 0, _,
            (noteChatSent networkId (pumps 1) (pumps 2) (pumps 3) (pumps 4)).comp (pump (pumps 5)),
            fun _ => rfl⟩
      | false => exact ⟨pumps 0, _, pump (pumps 5), fun _ => rfl⟩
  | forget networkId pumps =>
      exact ⟨pumps 0, _,
        (of_follows fun runtime _ => .forgetNetwork runtime networkId).comp (pump (pumps 1)),
        fun _ => rfl⟩

end Keeps

section Runs

variable {runtime next : Runtime} {act : Act}

/-- A step is a callback that was armed, or an act after the queue may have become late. -/
theorem step_cases (taken : runtime.step act = some next) :
    (∃ expiry generation, act = .fires expiry generation ∧ (expiry, generation) ∈ runtime.armed ∧
      next = runtime.perform act) ∨
    (∀ expiry generation, act ≠ .fires expiry generation) ∧
      next = (if act.restarts runtime.state.config then runtime.outdate else runtime).perform act := by
  cases act with
  | fires expiry generation =>
      rw [Runtime.step] at taken
      split at taken
      · rename_i armed
        cases taken
        exact .inl ⟨expiry, generation, rfl, armed, rfl⟩
      · cases taken
  | _ =>
      cases taken
      exact .inr ⟨nofun, rfl⟩

/-- What is late is only a record. -/
theorem outdate_lawful (lawful : Lawful runtime) : Lawful runtime.outdate := { lawful with }

/-- A callback queues an expiry of a generation that has been. -/
theorem fires_lawful {expiry : Expiry} {generation : Nat} (lawful : Lawful runtime)
    (armed : (expiry, generation) ∈ runtime.armed) :
    Lawful (runtime.perform (.fires expiry generation)) :=
  { lawful with
    queued := by
      intro callback listed
      rcases List.mem_append.mp listed with earlier | now
      · exact lawful.queued callback earlier
      · rw [List.mem_singleton] at now
        rw [now]
        exact lawful.armed _ armed }

/-- Every act keeps the law. -/
theorem step_lawful (lawful : Lawful runtime) (taken : runtime.step act = some next) :
    Lawful next := by
  rcases step_cases taken with ⟨expiry, generation, rfl, armed, rfl⟩ | ⟨drains, rfl⟩
  · exact fires_lawful lawful armed
  · obtain ⟨found, rest, keeps, performed⟩ := Keeps.perform drains
    rw [performed]
    have before : Lawful (if act.restarts runtime.state.config then runtime.outdate else runtime) := by
      split
      · exact outdate_lawful lawful
      · exact lawful
    exact (keeps _ (Keeps.pump found _ before).1).1

/-- An act that restarts the timers while no grace expiry waits lets nothing late trip. -/
theorem step_punctual (lawful : Lawful runtime) (punctual : Punctual runtime)
    (waits : NoGraceWaits runtime act) (taken : runtime.step act = some next) : Punctual next := by
  rcases step_cases taken with ⟨expiry, generation, rfl, armed, rfl⟩ | ⟨drains, rfl⟩
  · exact ⟨punctual.late, punctual.trips⟩
  · obtain ⟨found, rest, keeps, performed⟩ := Keeps.perform drains
    rw [performed]
    split
    · rename_i restarts
      have outdated := outdate_lawful lawful
      have pumped := (Keeps.pump found _ outdated).1
      refine (keeps _ pumped).2 ⟨?_, ?_⟩
      · rw [(pump_outcome runtime.outdate found).2.1]
        exact Nat.sub_self _
      · rw [pump_trips outdated found (waits restarts)]
        exact punctual.trips
    · obtain ⟨pumped, punctually⟩ := Keeps.pump found runtime lawful
      exact (keeps _ pumped).2 (punctually punctual)

/-- After a chat line no network is away by auto-away. -/
theorem Calm.noteChatSent (lawful : Lawful runtime) (networkId : String)
    (opening before after closing : Pump) :
    Calm (runtime.noteChatSent networkId opening before after closing) := by
  have opened := (Keeps.pump opening runtime lawful).1
  have calm := (Calm.noteLocalActivity opened before after).unawayAfterChat networkId
  refine calm.pump ?_ closing
  have empty : ((runtime.pump opening).noteLocalActivity before after).state.expiries = [] :=
    (pump_outcome _ after).1
  exact (Follows.unawayAfterChat _ networkId).expiries.trans empty

/-- After an activity no network is away by auto-away. -/
theorem step_calm (lawful : Lawful runtime) (active : act.isActivity = true)
    (taken : runtime.step act = some next) : Calm next := by
  cases act with
  | localActivity pumps =>
      cases taken
      exact .noteLocalActivity (outdate_lawful lawful) (pumps 0) (pumps 1)
  | chat networkId sent pumps =>
      cases active
      cases taken
      have opened := (Keeps.pump (pumps 0) _ (outdate_lawful lawful)).1
      refine (Calm.noteChatSent opened networkId (pumps 1) (pumps 2) (pumps 3) (pumps 4)).pump ?_ _
      exact (pump_outcome _ (pumps 4)).1
  | _ => cases active

/-- At the start there is nothing yet. -/
theorem start_lawful (config : AutoawayConfig) : Lawful (.start config) where
  apart _ listed := absurd listed List.not_mem_nil
  spared _ listed := absurd listed List.not_mem_nil
  armed _ listed := absurd listed List.not_mem_nil
  queued _ listed := absurd listed List.not_mem_nil

/-- Every run is lawful. -/
theorem runs_lawful {config : AutoawayConfig}
    (runs : Semantics.Runs Runtime.step Semantics.unguarded (.start config) runtime) :
    Lawful runtime :=
  runs.invariant Lawful (start_lawful config) fun lawful _ taken => step_lawful lawful taken

/-- In every run whose acts restart the timers only while no grace expiry waits, nothing that
was queued before the timers were restarted trips. -/
theorem runs_punctual {config : AutoawayConfig}
    (runs : Semantics.Runs Runtime.step NoGraceWaits (.start config) runtime) :
    Punctual runtime := by
  have sound := runs.invariant (fun runtime => Lawful runtime ∧ Punctual runtime)
    ⟨start_lawful config, rfl, fun _ listed => absurd listed List.not_mem_nil⟩
    fun sound waits taken =>
      ⟨step_lawful sound.1 taken, step_punctual sound.1 sound.2 waits taken⟩
  exact sound.2

/-- In every run whose acts restart the timers only while no grace expiry of the running window
waits in the queue: the networks away by hand and by auto-away are apart, auto-away wrote AWAY
to none that was away by hand, no expiry that was queued before the timers were restarted
tripped, and an activity leaves nothing tripped and no network away by auto-away. -/
theorem autoaway_spares_manual {config : AutoawayConfig}
    (runs : Semantics.Runs Runtime.step NoGraceWaits (.start config) runtime) :
    (∀ networkId ∈ runtime.state.autoAway, networkId ∉ runtime.state.manualAway) ∧
      (∀ line ∈ runtime.written, line.cause.automatic = true → line.manual = false) ∧
      (∀ late ∈ runtime.trips, late = false) ∧
      ∀ (act : Act) (next : Runtime), act.isActivity = true → runtime.step act = some next →
        next.state.tripped = false ∧ next.state.autoAway = [] := by
  have lawful := runs_lawful (runs.mono fun _ _ _ => trivial)
  refine ⟨lawful.apart, lawful.spared, (runs_punctual runs).trips, fun act next active taken => ?_⟩
  have calm := step_calm lawful active taken
  exact ⟨calm.tripped, calm.autoAway⟩

end Runs

section Witness

/-- A world with one registered network. -/
def oneNetwork : World where
  networkIds := ["net"]
  session networkId := if networkId = "net" then some {} else none

/-- A drain in that world. -/
def quietPump : Pump := { world := oneNetwork, after := oneNetwork }

/-- Thirty seconds, and a reason. -/
def thirtySeconds : AutoawayConfig :=
  { enabled := true, timeoutSeconds := 30, defaultReason := "lunch" }

/-- The idle timer is armed by an activity and fires, and then the grace timer does. -/
def idleThenGrace : List Act :=
  [.localActivity fun _ => quietPump, .fires .idle 1, .tick quietPump, .fires .grace 2]

/-- The grace expiry is drained in time, and the next activity clears. -/
theorem autoaway_spares_manual_tripped :
    ∃ runtime : Runtime, Semantics.Runs Runtime.step NoGraceWaits (.start thirtySeconds) runtime ∧
      runtime.state.autoAway = ["net"] ∧
      ∀ networkId ∈ runtime.state.autoAway, networkId ∉ runtime.state.manualAway := by
  have tripped : (Semantics.runGuarded Runtime.step NoGraceWaits (.start thirtySeconds)
      (idleThenGrace ++ [.tick quietPump])).any (fun runtime =>
        decide (runtime.state.autoAway = ["net"])) = true := by
    decide
  obtain ⟨runtime, reached, marked⟩ := (Option.any_eq_true ..).mp tripped
  have runs : Semantics.Runs Runtime.step NoGraceWaits (.start thirtySeconds) runtime :=
    .of_runGuarded reached
  exact ⟨runtime, runs, of_decide_eq_true marked, (autoaway_spares_manual runs).1⟩

/-- A grace expiry that waits when the activity begins trips auto-away. -/
theorem late_grace_trips :
    ∃ runtime : Runtime,
      Semantics.Runs Runtime.step Semantics.unguarded (.start thirtySeconds) runtime ∧
      true ∈ runtime.trips := by
  have tripped : (Semantics.runAll Runtime.step (.start thirtySeconds)
      (idleThenGrace ++ [.localActivity fun _ => quietPump])).any (fun runtime =>
        decide (true ∈ runtime.trips)) = true := by
    decide
  obtain ⟨runtime, reached, late⟩ := (Option.any_eq_true ..).mp tripped
  exact ⟨runtime, .of_runAll reached, of_decide_eq_true late⟩

end Witness

end Omairc.Autoaway
