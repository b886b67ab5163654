import Mathlib.Data.List.Sort
import Mathlib.Data.String.Basic
import Omairc.Irc.Autoaway

/-!
# Auto-away

The idle and grace timers, the tripped state, and the networks that are away by the timer or
by hand. A timer's callback only queues an expiry under the generation it was armed in, and
every stop starts a new generation. The sessions and what the server says about the user's
presence are inputs here.
-/

namespace Omairc.Autoaway

open Omairc.Text Omairc.Irc

/-- The two timers. -/
inductive Expiry
  | idle
  | grace
  deriving DecidableEq

/-- A session as auto-away finds it: whether it is registered, and which lines it writes. -/
structure AwayLink where
  registered : Bool := true
  writes : String → Bool := fun _ => true

/-- The networks in order, their sessions, and where the user is away. -/
structure World where
  networkIds : List String := []
  session : String → Option AwayLink := fun _ => none
  selfAway : String → Bool := fun _ => false

/-- Insert a name into a list that is in order and without repetitions. -/
def insertName (names : List String) (name : String) : List String :=
  if name ∈ names then names else names.orderedInsert (· ≤ ·) name

/-- Take a name out. -/
def removeName (names : List String) (name : String) : List String :=
  names.filter (· ≠ name)

/-- The state the controller holds. A timer is the generation it was armed under. -/
structure AutoawayState where
  config : AutoawayConfig := {}
  idleTimer : Option Nat := none
  graceTimer : Option Nat := none
  graceArmed : Bool := false
  tripped : Bool := false
  generation : Nat := 0
  expiries : List (Expiry × Nat) := []
  autoAway : List String := []
  manualAway : List String := []
  unawaySent : List String := []

namespace AutoawayState

/-- Cancel both timers and leave behind what they had queued. -/
def stopTimers (state : AutoawayState) : AutoawayState :=
  { state with
    generation := state.generation + 1
    idleTimer := none
    graceTimer := none
    graceArmed := false }

/-- The reason auto-away gives. -/
def reason (state : AutoawayState) : String :=
  if state.config.oneShotReason = "" then state.config.defaultReason
  else state.config.oneShotReason

/-- Whether auto-away is on with a timeout that is accepted. -/
def withinRange (state : AutoawayState) : Bool :=
  state.config.enabled && decide (autoawayMinTimeoutSeconds ≤ state.config.timeoutSeconds) &&
    decide (state.config.timeoutSeconds ≤ autoawayMaxTimeoutSeconds)

/-- Drop the one-shot reason. -/
def dropOneShot (state : AutoawayState) : AutoawayState :=
  { state with config := { state.config with oneShotReason := "" } }

end AutoawayState

/-- What made a session write AWAY. -/
inductive Cause
  | trip
  | registered
  | refresh
  | clear
  | chat
  | user

/-- An AWAY line that a session took, and whether its network was away by hand then. -/
structure AwayLine where
  cause : Cause
  networkId : String
  line : String
  manual : Bool

/-- The controller as far as auto-away goes, with what has happened so far: the Status lines,
the AWAY lines, the callbacks of the timers it armed, and for each trip whether its expiry was
queued before the latest restart of the timers. The first `late` expiries of the queue are. -/
structure Runtime where
  state : AutoawayState
  world : World := {}
  status : List (String × String) := []
  written : List AwayLine := []
  armed : List (Expiry × Nat) := []
  late : Nat := 0
  runsLate : Bool := false
  trips : List Bool := []

/-- The line of `set_away`: an empty reason clears. -/
def setAwayLine (reason : String) : String :=
  if trim reason = "" then "AWAY" else "AWAY :" ++ trim reason

/-- The line of `mark_away`: an empty reason marks with the server's default text. -/
def markAwayLine (reason : String) : String := "AWAY :" ++ trim reason

/-- The line of `clear_away`. -/
def clearAwayLine : String := setAwayLine ""

/-- What the sessions report while they are drained. -/
inductive SessionEvent
  | welcome (networkId : String)
  | selfAway (networkId : String)
  | other

/-- One drain of the queues: the world it finds, the events of the sessions with the world
after each, and the world it leaves. -/
structure Pump where
  world : World := {}
  events : List (SessionEvent × World) := []
  after : World := {}

namespace Runtime

/-- Change the state. -/
def onState (runtime : Runtime) (change : AutoawayState → AutoawayState) : Runtime :=
  { runtime with state := change runtime.state }

/-- Hand a line to the session of a network. -/
def write (runtime : Runtime) (cause : Cause) (networkId line : String) : Runtime :=
  { runtime with
    written := runtime.written ++
      [⟨cause, networkId, line, decide (networkId ∈ runtime.state.manualAway)⟩] }

/-- Write one Status line of a network. -/
def recordStatus (runtime : Runtime) (networkId text : String) : Runtime :=
  if networkId = "" ∨ text = "" then runtime
  else { runtime with status := runtime.status ++ [(networkId, text)] }

/-- Mark one registered session away and record it. -/
def markSession (runtime : Runtime) (cause : Cause) (networkId : String) (link : AwayLink) :
    Runtime × Bool :=
  let line := markAwayLine runtime.state.reason
  if !link.registered then (runtime, false)
  else if !link.writes line then (runtime, false)
  else
    ((runtime.write cause networkId line).onState fun state =>
      { state with autoAway := insertName state.autoAway networkId }, true)

/-- Mark one network away in a trip. -/
def tripNetwork (status : String) (runtime : Runtime) (networkId : String) : Runtime :=
  if networkId ∈ runtime.state.autoAway ∨ networkId ∈ runtime.state.manualAway ∨
      runtime.world.selfAway networkId = true then runtime
  else
    match runtime.world.session networkId with
    | none => runtime
    | some link =>
        let (marked, sent) := runtime.markSession .trip networkId link
        if sent then marked.recordStatus networkId status else marked

/-- Mark every network away that is not yet. -/
def trip (runtime : Runtime) : Runtime :=
  if !runtime.state.config.enabled then runtime
  else
    let runtime :=
      { runtime.onState (fun state => { state with tripped := true }) with
        trips := runtime.trips ++ [runtime.runsLate] }
    let status := formatAutoawayTrippedStatus runtime.state.reason
    (runtime.world.networkIds.foldl (tripNetwork status) runtime).onState
      AutoawayState.stopTimers

/-- The grace window closed. -/
def onGrace (runtime : Runtime) : Runtime :=
  if !runtime.state.graceArmed then runtime
  else (runtime.onState AutoawayState.stopTimers).trip

/-- The idle timer fired: open the grace window. -/
def onIdle (runtime : Runtime) : Runtime :=
  if !runtime.state.config.enabled ∨
      runtime.state.config.timeoutSeconds < autoawayMinTimeoutSeconds then runtime
  else
    let runtime := runtime.onState fun state => { state.stopTimers with graceArmed := true }
    if autoawayGraceSeconds runtime.state.config.timeoutSeconds ≤ 0 then runtime.onGrace
    else
      let generation := runtime.state.generation
      { runtime.onState (fun state => { state with graceTimer := some generation }) with
        armed := runtime.armed ++ [(.grace, generation)] }

/-- Take the first expiry out of the queue. -/
def popExpiry (runtime : Runtime) (rest : List (Expiry × Nat)) : Runtime :=
  { runtime.onState (fun state => { state with expiries := rest }) with
    late := runtime.late - 1
    runsLate := decide (0 < runtime.late) }

/-- Run one queued expiry if it is still current. There is no result when none is queued. -/
def runExpiry (runtime : Runtime) : Option Runtime :=
  match runtime.state.expiries with
  | [] => none
  | (expiry, generation) :: rest =>
      let popped := runtime.popExpiry rest
      if generation ≠ popped.state.generation then some popped
      else
        match expiry with
        | .idle => some popped.onIdle
        | .grace => some popped.onGrace

/-- Run queued expiries, up to a number of them. -/
def runExpiries : Nat → Runtime → Runtime
  | 0, runtime => runtime
  | count + 1, runtime =>
      match runtime.runExpiry with
      | none => runtime
      | some next => runExpiries count next

/-- Drop one network from the away sets. -/
def forgetNetwork (runtime : Runtime) (networkId : String) : Runtime :=
  runtime.onState fun state =>
    { state with
      autoAway := removeName state.autoAway networkId
      manualAway := removeName state.manualAway networkId
      unawaySent := removeName state.unawaySent networkId }

/-- A network registered: when auto-away has tripped, it is marked away too. -/
def onRegistered (runtime : Runtime) (networkId : String) : Runtime :=
  if runtime.state.tripped && runtime.state.config.enabled then
    match runtime.world.session networkId with
    | none => runtime
    | some link => (runtime.markSession .registered networkId link).1
  else runtime

/-- Fold one event of a session in. -/
def handleEvent (runtime : Runtime) : SessionEvent → Runtime
  | .welcome networkId =>
      match runtime.world.session networkId with
      | none => runtime
      | some _ => (runtime.forgetNetwork networkId).onRegistered networkId
  | .selfAway networkId =>
      runtime.onState fun state =>
        { state with unawaySent := removeName state.unawaySent networkId }
  | .other => runtime

/-- Drain the queued expiries, and then the events of the sessions. -/
def pump (runtime : Runtime) (found : Pump) : Runtime :=
  let runtime := { runtime with world := found.world }
  let runtime := runExpiries runtime.state.expiries.length runtime
  let runtime := found.events.foldl (fun runtime (event, world) =>
    { runtime.handleEvent event with world }) runtime
  { runtime with world := found.after }

/-- Arm the idle timer, or stop everything when auto-away is off or out of range. -/
def armIdle (runtime : Runtime) : Runtime :=
  let runtime := runtime.onState AutoawayState.stopTimers
  if !runtime.state.withinRange then runtime
  else
    let generation := runtime.state.generation
    { runtime.onState (fun state => { state with idleTimer := some generation }) with
      armed := runtime.armed ++ [(.idle, generation)] }

/-- Record that the line that clears away went to a network. -/
def markUnawaySent (runtime : Runtime) (networkId : String) : Runtime :=
  runtime.onState fun state => { state with unawaySent := insertName state.unawaySent networkId }

/-- Bring one network back. -/
def clearNetwork (logCleared : Bool) (runtime : Runtime) (networkId : String) : Runtime :=
  match runtime.world.session networkId with
  | none => runtime
  | some link =>
      if link.registered && link.writes clearAwayLine then
        let runtime := (runtime.write .clear networkId clearAwayLine).markUnawaySent networkId
        if logCleared then runtime.recordStatus networkId formatAutoawayClearedStatus else runtime
      else runtime

/-- Bring every network back that auto-away marked, and clear the tripped state. -/
def clearNetworks (runtime : Runtime) (logCleared : Bool) : Runtime :=
  let networks := runtime.state.autoAway
  let runtime := runtime.onState fun state => { state with tripped := false, autoAway := [] }
  (networks.foldl (clearNetwork logCleared) runtime).onState AutoawayState.dropOneShot

/-- Send one network AWAY with the current reason. -/
def refreshNetwork (runtime : Runtime) (networkId : String) : Runtime :=
  match runtime.world.session networkId with
  | none => runtime
  | some link =>
      let line := markAwayLine runtime.state.reason
      if link.registered && link.writes line then runtime.write .refresh networkId line
      else runtime

/-- Send AWAY with the current reason again. -/
def refreshReason (runtime : Runtime) : Runtime :=
  if !runtime.state.tripped || !runtime.state.config.enabled then runtime
  else runtime.state.autoAway.foldl refreshNetwork runtime

/-- The first half of an activity: bring back what auto-away marked. -/
def bringBack (runtime : Runtime) : Runtime :=
  let wasTripped := runtime.state.tripped
  let runtime := runtime.onState fun state => { state with tripped := false }
  if runtime.state.autoAway ≠ [] then runtime.clearNetworks true
  else if wasTripped then runtime.onState AutoawayState.dropOneShot
  else runtime

/-- The body of an activity, between its drains: bring back, and arm the idle timer again. -/
def activity (runtime : Runtime) : Runtime :=
  let runtime := runtime.bringBack
  if runtime.state.config.enabled then runtime.armIdle else runtime

/-- One input event is activity. -/
def noteLocalActivity (runtime : Runtime) (before after : Pump) : Runtime :=
  (runtime.pump before).activity.pump after

/-- The user went away by hand. -/
def noteManualAway (runtime : Runtime) (networkId : String) : Runtime :=
  runtime.onState fun state =>
    { state with
      autoAway := removeName state.autoAway networkId
      manualAway := insertName state.manualAway networkId }

/-- The user came back by hand. The one-shot reason goes with the last network that auto-away
had marked. -/
def noteAwayCleared (runtime : Runtime) (networkId : String) : Runtime :=
  let wasAuto := decide (networkId ∈ runtime.state.autoAway)
  let runtime := runtime.onState fun state =>
    { state with
      autoAway := removeName state.autoAway networkId
      manualAway := removeName state.manualAway networkId }
  if wasAuto && runtime.state.autoAway == [] then runtime.onState AutoawayState.dropOneShot
  else runtime

/-- A chat line went out: a user who is away is brought back once. -/
def unawayAfterChat (runtime : Runtime) (networkId : String) : Runtime :=
  if !runtime.world.selfAway networkId ∨ networkId ∈ runtime.state.unawaySent then runtime
  else
    match runtime.world.session networkId with
    | none => runtime
    | some link =>
        if link.writes clearAwayLine then
          ((runtime.write .chat networkId clearAwayLine).markUnawaySent networkId).noteAwayCleared
            networkId
        else runtime

/-- Change the settings. -/
def configure (runtime : Runtime) (change : AutoawayConfig → AutoawayConfig) : Runtime :=
  runtime.onState fun state => { state with config := change state.config }

/-- Arm the idle timer unless auto-away has tripped. -/
def rearm (runtime : Runtime) : Runtime :=
  if !runtime.state.tripped then runtime.armIdle else runtime

/-- Turn auto-away off. -/
def disable (runtime : Runtime) : Runtime :=
  let disabled := runtime.configure fun config => { config with enabled := false }
  (disabled.onState fun state => { state.stopTimers with tripped := false }).clearNetworks false

/-- The settings after a request, with the timers and the networks it concerns. There is no
result when the request is answered with the usage line. -/
def applyRequest (runtime : Runtime) (request : AutoawayRequest) : Option Runtime :=
  match request.kind with
  | .usage => none
  | .query => some runtime
  | .disable => some runtime.disable
  | .enableOn =>
      if runtime.state.config.timeoutSeconds < autoawayMinTimeoutSeconds then none
      else some (runtime.configure fun config => { config with enabled := true }).rearm
  | .setTimeout =>
      let timed := runtime.configure fun config =>
        { config with
          enabled := true
          timeoutSeconds := request.timeoutSeconds
          oneShotReason := if request.text = "" then config.oneShotReason else request.text }
      some timed.rearm
  | .setDefaultReason =>
      some (runtime.configure fun config => { config with defaultReason := request.text })
  | .clearDefaultReason =>
      some (runtime.configure fun config => { config with defaultReason := "" })

/-- The text that answers a request that was applied. -/
def requestText (kind : AutoawayKind) (config : AutoawayConfig) : String :=
  match kind with
  | .query => formatAutoawayQuery config
  | _ => formatAutoawayConfirmation config

/-- Run one `/autoaway` request and return the reply. -/
def autoawayCommand (runtime : Runtime) (request : AutoawayRequest) (before after : Pump) :
    Runtime × String :=
  let runtime := runtime.pump before
  let previousReason := runtime.state.reason
  match runtime.applyRequest request with
  | none => (runtime, autoawayUsage)
  | some runtime =>
      let text := requestText request.kind runtime.state.config
      let runtime :=
        if runtime.state.tripped && runtime.state.config.enabled &&
            runtime.state.reason ≠ previousReason then runtime.refreshReason
        else runtime
      (runtime.pump after, text)

/-- `/away`: an empty reason comes back. -/
def away (runtime : Runtime) (networkId reason : String) : Runtime × Bool :=
  match runtime.world.session networkId with
  | none => (runtime, false)
  | some link =>
      let line := setAwayLine reason
      if !link.writes line then (runtime, false)
      else
        let runtime := runtime.write .user networkId line
        if trim reason = "" then (runtime.noteAwayCleared networkId, true)
        else (runtime.noteManualAway networkId, true)

/-- `/back`. -/
def back (runtime : Runtime) (networkId : String) : Runtime × Bool :=
  match runtime.world.session networkId with
  | none => (runtime, false)
  | some link =>
      if !link.writes clearAwayLine then (runtime, false)
      else ((runtime.write .user networkId clearAwayLine).noteAwayCleared networkId, true)

/-- A chat line went out on a network: it is activity, and it brings the user back. -/
def noteChatSent (runtime : Runtime) (networkId : String) (opening before after closing : Pump) :
    Runtime :=
  (((runtime.pump opening).noteLocalActivity before after).unawayAfterChat networkId).pump closing

end Runtime

end Omairc.Autoaway
