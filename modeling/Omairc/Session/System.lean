import Omairc.Semantics.Execution
import Omairc.Session.Outbound
import Omairc.Session.Sink

/-!
# The session with its transport and its owner

A state transition system over one session. The owner's calls, the transport's
events and the timers enter while nothing is under way; the lines of a read are then
handled one at a time, and the queued transport calls performed in order. A shutdown
of a live transport reports the disconnect at once, so its effects run before the
ones that were left. An STS upgrade drops the lines of the read that are left.
-/

namespace Omairc.Session

open Omairc.Text Omairc.Irc

/-- The session with the transport calls and the lines of a read that are left. -/
structure System where
  core : Core
  running : List Effect := []
  reading : List Bytes := []

/-- What can happen to a session. The last two are the session's own work. -/
inductive Action
  | start
  | stop
  | quit (reason : String)
  | send (operation : SendOperation)
  | startLabeledRequest
  | cancelRequestLabel (label : String)
  | setOwnMetadata (key value : String)
  | queueReadMarkerSet (target : String) (time : Instant)
  | notifyReachable
  | forceTransportShutdown
  | setIgnoreFilter (filter : Option (IrcMessage → String → String → Bool))
  | setHistoryResume (resume : Option (String → IrcCaseMapping → Option Instant))
  | connected
  | encrypted
  | closed
  | transportFailed (error : TransportError)
  | bytesReceived (bytes : Bytes)
  | timerFired (slot : TimerSlot) (id : Nat)
  | metadataRetry (target : String)
  | handleLine
  | perform

/-- Whether the transport delivers bytes: the open pipe of a plaintext connection, or
the encrypted pipe of a TLS one. -/
def Transport.delivers (transport : Transport) : Bool :=
  (transport.state = .connected && !transport.tlsOn) || transport.state = .encrypted

/-- Whether a shutdown ends a connection, which then reports its disconnect. -/
def ConnectionState.shutsDown : ConnectionState → Bool
  | .connecting | .connected | .encrypted => true
  | _ => false

/-- Whether the transport has finished, so that a stop settles. -/
def ConnectionState.finished : ConnectionState → Bool
  | .idle | .disconnected | .failed => true
  | _ => false

namespace Core

/-- Send QUIT when registered, then stop; false when the session was not stopped. -/
def quit (core : Core) (reason : String) : Core × Bool :=
  if core.state = .idle then (core, false)
  else if core.state = .registered then
    match core.sendText (if reason = "" then "QUIT" else "QUIT :" ++ reason) with
    | (sent, true) => (sent.stop, true)
    | (refused, false) => (refused, false)
  else (core.stop, true)

/-- The session under the transport's next state. -/
def withTransport (core : Core) (transport : Transport) : Core := { core with transport }

/-- The session under new readings of its surroundings. -/
def withReadings (core : Core) (readings : Readings) : Core := { core with readings }

end Core

namespace System

variable (system : System)

/-- Nothing is under way. -/
def idle : Bool := system.running.isEmpty && system.reading.isEmpty

/-- Hand the effects an entry point queued to the transport, ahead of those left. -/
def dispatchEffects (core : Core) (left : List Effect) : System where
  core := { core with effects := [] }
  running := core.effects ++ left

/-- Run an entry point of the session. -/
def enter (entry : Core → Core) : System := dispatchEffects (entry system.core) system.running

/-- Perform one transport call. -/
def performEffect (core : Core) (effect : Effect) (left : List Effect) : System :=
  match effect with
  | .write _ => { core, running := left }
  | .connect _ _ tls =>
      if core.transport.state.inFlight then { core, running := left }
      else { core := core.withTransport ⟨.connecting, tls⟩, running := left }
  | .shutdown =>
      if core.transport.state.shutsDown then
        dispatchEffects (core.withTransport { core.transport with state := .disconnected }).onDisconnected
          left
      else { core, running := left }
  | .settleStop =>
      if core.transport.state.finished then dispatchEffects (core.setState .idle) left
      else { core, running := left }

variable [Platform]

/-- One step of the session's own work: the next line of the read, or, when none is
left, the next transport call. -/
def work (action : Action) : Option System :=
  match action, system.reading, system.running with
  | .handleLine, frame :: rest, _ =>
      -- The upgrade that a line began drops the rest of the read.
      if system.core.state = .stsUpgrading then
        some (dispatchEffects system.core system.running)
      else
        let core := system.core.handleFrame frame
        if rest.isEmpty then some (dispatchEffects core system.running)
        else some { system with core, reading := rest }
  | .perform, [], effect :: left => some (performEffect system.core effect left)
  | _, _, _ => none

/-- The session's answer to its owner, its transport or a timer. -/
def respond (action : Action) : Option System :=
  let core := system.core
  match action with
  | .start => some (system.enter Core.start)
  | .stop => some (system.enter Core.stop)
  | .quit reason => some (system.enter fun core => (core.quit reason).1)
  | .send operation => some (system.enter fun core => (core.send operation).1)
  | .startLabeledRequest => some (system.enter fun core => core.startLabeledRequest.1)
  | .cancelRequestLabel label => some (system.enter fun core => core.dropRequestLabel label)
  | .setOwnMetadata key value => some (system.enter fun core => (core.setOwnMetadata key value).1)
  | .queueReadMarkerSet target time =>
      some (system.enter fun core => core.queueReadMarkerSet target time)
  | .notifyReachable => some (system.enter Core.beginReconnectAttempt)
  | .forceTransportShutdown => some { system with running := [.shutdown] }
  | .setIgnoreFilter filter => some { system with core := { core with ignoreFilter := filter } }
  | .setHistoryResume resume => some { system with core := { core with historyResume := resume } }
  | .connected =>
      if core.transport.state = .connecting then
        some (system.enter fun core =>
          (core.withTransport { core.transport with state := .connected }).onConnected)
      else none
  | .encrypted =>
      if core.transport.state = .connected ∧ core.transport.tlsOn = true then
        some (system.enter fun core =>
          (core.withTransport { core.transport with state := .encrypted }).onEncrypted)
      else none
  | .closed =>
      if core.transport.state.isOpen then
        some (system.enter fun core =>
          (core.withTransport { core.transport with state := .disconnected }).onDisconnected)
      else none
  | .transportFailed error =>
      if core.transport.state.inFlight then
        some (system.enter fun core =>
          (core.withTransport { core.transport with state := .failed }).errorOccurred error)
      else none
  | .bytesReceived bytes =>
      if core.transport.delivers then
        let (read, frames) := core.beginRead bytes
        if frames.isEmpty then some (dispatchEffects read system.running)
        else some { core := read, running := system.running, reading := frames }
      else none
  | .timerFired slot id => some (system.enter fun core => core.timerFired slot id)
  | .metadataRetry target =>
      if core.metadataRetries.any fun retry => retry.target = target then
        some (system.enter fun core =>
          { core with
            metadataRetries := core.metadataRetries.eraseP fun retry => retry.target = target
            }.retryMetadataSync target)
      else none
  | .handleLine | .perform => none

/-- One step, under the readings of its surroundings. -/
def step (readings : Readings) (action : Action) : Option System :=
  let read := { system with core := system.core.withReadings readings }
  if system.idle then read.respond action else read.work action

/-- A session before its first start. -/
def initial (config : SessionConfig) : System := { core := Core.new config }

/-- The session as a transition system: a label is an action under the readings of its
surroundings. -/
def transition (system : System) (label : Readings × Action) : Option System :=
  system.step label.1 label.2

/-- Run steps in order. There is no result when one of them cannot happen. -/
def run (system : System) (labels : List (Readings × Action)) : Option System :=
  Semantics.runAll transition system labels

/-- The systems that a session can reach from before its first start. -/
def Reachable (config : SessionConfig) (system : System) : Prop :=
  Semantics.Runs transition Semantics.unguarded (initial config) system

end System

end Omairc.Session
