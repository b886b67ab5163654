import Omairc.Net.Transport
import Omairc.Semantics.Execution

/-!
# The hub, its workers and the transports

One transition system for the UI thread, the net thread and the tasks it runs. The
commands are one queue, served in order. A worker reports its events in order; the
events of two workers reach the UI thread in any order. A step of the UI thread is one
call of a transport or one delivery, up to the sink call it ends with: a sink that calls
back into the transport does so in the steps that follow.
-/

namespace Omairc.Net

open Omairc.Text Omairc.Session

/-- The most bytes one read asks the socket for. -/
def readBuffer : Nat := 8 * 1024

/-- How far the task of a connection has come. -/
inductive Stage
  | dialing
  | handshaking
  | pumping
  | ended
  deriving DecidableEq

/-- One connection's task on the net thread. `events` has what it reported and the UI
thread has not taken yet, `queue` the frames waiting for its writer and `wire` the ones
written. -/
structure Worker where
  tag : Tag
  host : String
  port : UInt16
  tls : Bool
  stage : Stage := .dialing
  /-- Whether the pipe was opened. -/
  opened : Bool := false
  reading : Bool := false
  writing : Bool := false
  /-- Whether the hub still holds the sender of the write queue. -/
  sending : Bool := true
  aborted : Bool := false
  notified : Bool := false
  queue : List Bytes := []
  wire : List Bytes := []
  events : List IoEvent := []

/-- Open the pipe: the reader and the writer start. -/
def Worker.pump (worker : Worker) : Worker :=
  { worker with stage := .pumping, opened := true, reading := true, writing := true }

/-- What the task or its reader does as it reports an event. There is no result for an
event that it cannot report where it is. -/
def Worker.progress (worker : Worker) (event : IoEvent) : Option Worker :=
  match worker.stage, event with
  | .dialing, .connected =>
      some (if worker.tls then { worker with stage := .handshaking } else worker.pump)
  | .dialing, .failed _ => some { worker with stage := .ended }
  | .handshaking, .encrypted => some worker.pump
  | .handshaking, .failed _ => some { worker with stage := .ended }
  | .pumping, .bytes received =>
      if worker.reading ∧ received ≠ [] ∧ received.length ≤ readBuffer then some worker else none
  | .pumping, .closed => if worker.reading then some { worker with reading := false } else none
  | .pumping, .failed _ =>
      if worker.reading then some { worker with reading := false } else none
  | _, _ => none

/-- Report an event: the task moves on and the event waits for the UI thread. -/
def Worker.report (worker : Worker) (event : IoEvent) : Option Worker :=
  (worker.progress event).map fun moved => { moved with events := moved.events ++ [event] }

/-- A failed write reports once and aborts the reader. -/
def Worker.failWrite (worker : Worker) (error : TransportError) : Option Worker :=
  if worker.stage = .pumping ∧ worker.writing ∧ worker.queue ≠ [] then
    some { worker with
      reading := false, writing := false, events := worker.events ++ [.failed error] }
  else none

/-- The writer writes the next queued frame. -/
def Worker.writeFrame (worker : Worker) : Option Worker :=
  match worker.queue with
  | [] => none
  | frame :: rest =>
      if worker.stage = .pumping ∧ worker.writing then
        some { worker with queue := rest, wire := worker.wire ++ [frame] }
      else none

/-- The sender of the queue is gone and the queue is empty: the writer says goodbye and
aborts the reader. -/
def Worker.sayGoodbye (worker : Worker) : Option Worker :=
  if worker.stage = .pumping ∧ worker.writing ∧ worker.queue = [] ∧ worker.sending = false then
    some { worker with reading := false, writing := false }
  else none

/-- The reader has ended, so the worker ends and its writer stops. -/
def Worker.ends (worker : Worker) : Option Worker :=
  if worker.stage = .pumping ∧ worker.reading = false then
    some { worker with stage := .ended, writing := false }
  else none

/-- The runtime drops an aborted task and both halves of its I/O. -/
def Worker.dies (worker : Worker) : Option Worker :=
  if worker.aborted then
    some { worker with stage := .ended, reading := false, writing := false }
  else none

/-- Abort the task. It takes effect when the runtime next polls it. -/
def Worker.abort (worker : Worker) : Worker := { worker with aborted := true, sending := false }

/-- Queue a frame for the writer. A worker that is gone has no reader for it. -/
def Worker.enqueue (frame : Bytes) (worker : Worker) : Worker :=
  if worker.stage = .ended then worker else { worker with queue := worker.queue ++ [frame] }

/-- End a connection's task: one whose pipe is not open is aborted at once, an open one
drains the frames already queued. -/
def Worker.windDown (worker : Worker) : Worker :=
  if worker.opened then { worker with sending := false } else worker.abort

/-- What the net thread keeps for one connection: the epoch and the worker it runs. -/
structure ConnTask where
  epoch : Nat
  worker : Nat

/-- What the UI thread did, as an observer of the connections would write it down. A
callback names the epoch of the event behind it. -/
inductive Entry
  | connects (tag : Tag)
  | writes (conn : ConnId) (frame : Bytes)
  | callback (tag : Tag) (notice : Notice)

/-- The hub, the transports registered with it, the net thread's tasks, every worker
spawned so far, and what happened, newest first. -/
structure State where
  nextConn : Nat := 0
  transports : ConnId → Option Inner := fun _ => none
  commands : List Command := []
  /-- Whether the UI-side handle is gone. -/
  dropped : Bool := false
  /-- Whether the net thread has stopped serving commands. -/
  stopped : Bool := false
  tasks : ConnId → Option ConnTask := fun _ => none
  workers : List Worker := []
  log : List Entry := []

/-- Change one transport. -/
def State.setTransport (state : State) (conn : ConnId) (inner : Inner) : State :=
  { state with transports := Function.update state.transports conn (some inner) }

/-- Queue a command for the net thread. One sent to a hub that has stopped is never
served. -/
def State.send (state : State) (command : Command) : State :=
  { state with commands := state.commands ++ [command] }

/-- Write down what happened. -/
def State.record (state : State) (entry : Entry) : State :=
  { state with log := entry :: state.log }

/-- Change one worker. -/
def State.onWorker (state : State) (index : Nat) (change : Worker → Worker) : State :=
  { state with workers := state.workers.modify index change }

/-- Forget the task of a connection. -/
def State.forget (state : State) (conn : ConnId) : State :=
  { state with tasks := Function.update state.tasks conn none }

/-- A new transport, registered so that its deliveries reach it. -/
def State.register (state : State) : Option State :=
  if state.dropped then none
  else some { state.setTransport state.nextConn {} with nextConn := state.nextConn + 1 }

/-- Attach the sink. A session does so once, as it is made. -/
def State.setSink (state : State) (conn : ConnId) : Option State :=
  match state.transports conn with
  | some inner =>
      if inner.epoch = 0 then some (state.setTransport conn { inner with sink := true }) else none
  | none => none

/-- The owner of the sink goes away. -/
def State.dropSink (state : State) (conn : ConnId) : Option State :=
  (state.transports conn).map fun inner => state.setTransport conn { inner with sink := false }

/-- The holder of the transport lets go of it. -/
def State.dropTransport (state : State) (conn : ConnId) : Option State :=
  (state.transports conn).map fun _ =>
    { state with transports := Function.update state.transports conn none }

/-- `connect` of one transport. -/
def State.connect (state : State) (conn : ConnId) (host : String) (port : UInt16)
    (tlsEnabled : Bool) : Option State :=
  (state.transports conn).map fun inner =>
    match inner.connect tlsEnabled with
    | none => state
    | some next =>
        ((state.setTransport conn next).record (.connects { conn, epoch := next.epoch })).send
          (.connect conn next.epoch host port tlsEnabled)

/-- `write` of one transport. -/
def State.write (state : State) (conn : ConnId) (frame : Bytes) : Option State :=
  (state.transports conn).map fun inner =>
    if frame = [] then state
    else (state.record (.writes conn frame)).send (.write conn inner.epoch frame)

/-- Call the sink when it is still there. -/
def State.notify (state : State) (inner : Inner) (tag : Tag) (notice : Notice) : State :=
  if inner.sink then state.record (.callback tag notice) else state

/-- `shutdown` of one transport: its sink hears `disconnected` once. -/
def State.shutdown (state : State) (conn : ConnId) : Option State :=
  (state.transports conn).map fun inner =>
    match inner.shutdown with
    | none => state
    | some next =>
        ((state.setTransport conn next).send (.close conn)).notify next
          { conn, epoch := inner.epoch } .disconnected

/-- Route one delivery to its transport. A transport that is gone takes nothing. -/
def State.apply (state : State) (tag : Tag) (event : IoEvent) : State :=
  match state.transports tag.conn with
  | none => state
  | some inner =>
      match inner.apply tag.epoch event with
      | none => state
      | some (notice, next) => (state.setTransport tag.conn next).notify next tag notice

/-- Deliver the oldest event of one worker. -/
def State.deliver (state : State) (index : Nat) : Option State :=
  if state.dropped then none
  else
    match state.workers[index]? with
    | none => none
    | some worker =>
        match worker.events with
        | [] => none
        | event :: rest =>
            some ((state.onWorker index fun worker => { worker with events := rest }).apply
              worker.tag event)

/-- Serve one command. A connect replaces any task still open for its connection. A
write reaches the task only when its epoch is the task's. A notice from an epoch the
connection has left does not remove the task it runs now. -/
def State.perform (state : State) : Command → State
  | .connect conn epoch host port tls =>
      let abandoned :=
        match state.tasks conn with
        | some old => state.onWorker old.worker Worker.abort
        | none => state
      { abandoned with
        workers := abandoned.workers ++ [{ tag := { conn, epoch }, host, port, tls }]
        tasks := Function.update abandoned.tasks conn
          (some { epoch, worker := abandoned.workers.length }) }
  | .write conn epoch frame =>
      match state.tasks conn with
      | some task =>
          if task.epoch = epoch then state.onWorker task.worker (Worker.enqueue frame) else state
      | none => state
  | .close conn =>
      match state.tasks conn with
      | some task => (state.forget conn).onWorker task.worker Worker.windDown
      | none => state
  | .finished conn epoch =>
      match state.tasks conn with
      | some task => if task.epoch = epoch then state.forget conn else state
      | none => state
  | .stop => { state with stopped := true }

/-- The net thread takes the oldest command. -/
def State.serve (state : State) : Option State :=
  if state.stopped then none
  else
    match state.commands with
    | [] => none
    | command :: rest => some ({ state with commands := rest }.perform command)

/-- After the stop, the net thread winds down one of the connections left. -/
def State.windDown (state : State) (conn : ConnId) : Option State :=
  if state.stopped then
    (state.tasks conn).map fun task => (state.forget conn).onWorker task.worker Worker.windDown
  else none

/-- A task that ended on its own reports it under the epoch it ran for. -/
def State.finish (state : State) (index : Nat) : Option State :=
  match state.workers[index]? with
  | none => none
  | some worker =>
      if worker.stage = .ended ∧ worker.aborted = false ∧ worker.notified = false then
        some ((state.onWorker index fun worker => { worker with notified := true }).send
          (.finished worker.tag.conn worker.tag.epoch))
      else none

/-- One worker takes a step of its own. -/
def State.work (state : State) (index : Nat) (move : Worker → Option Worker) : Option State :=
  match state.workers[index]? with
  | none => none
  | some worker => (move worker).map fun moved => state.onWorker index fun _ => moved

/-- Everything that can happen next. -/
inductive Label
  | register
  | setSink (conn : ConnId)
  | dropSink (conn : ConnId)
  | dropTransport (conn : ConnId)
  | connect (conn : ConnId) (host : String) (port : UInt16) (tlsEnabled : Bool)
  | write (conn : ConnId) (frame : Bytes)
  | shutdown (conn : ConnId)
  | deliver (worker : Nat)
  | dropHub
  | serve
  | windDown (conn : ConnId)
  | report (worker : Nat) (event : IoEvent)
  | failWrite (worker : Nat) (error : TransportError)
  | writeFrame (worker : Nat)
  | sayGoodbye (worker : Nat)
  | ends (worker : Nat)
  | finish (worker : Nat)
  | deadline (worker : Nat)
  | dies (worker : Nat)

/-- One step. There is none when the label cannot happen in the state. -/
def step (state : State) : Label → Option State
  | .register => state.register
  | .setSink conn => state.setSink conn
  | .dropSink conn => state.dropSink conn
  | .dropTransport conn => state.dropTransport conn
  | .connect conn host port tlsEnabled => state.connect conn host port tlsEnabled
  | .write conn frame => state.write conn frame
  | .shutdown conn => state.shutdown conn
  | .deliver worker => state.deliver worker
  | .dropHub => if state.dropped then none else some ({ state with dropped := true }.send .stop)
  | .serve => state.serve
  | .windDown conn => state.windDown conn
  | .report worker event => state.work worker (·.report event)
  | .failWrite worker error => state.work worker (·.failWrite error)
  | .writeFrame worker => state.work worker Worker.writeFrame
  | .sayGoodbye worker => state.work worker Worker.sayGoodbye
  | .ends worker => state.work worker Worker.ends
  | .finish worker => state.finish worker
  -- The close grace of a task that is draining has passed.
  | .deadline worker =>
      state.work worker fun running => if running.sending then none else some running.abort
  | .dies worker => state.work worker Worker.dies

/-- A hub as it starts. -/
def initial : State := {}

/-- The states that any interleaving of the steps reaches. -/
def Reachable (state : State) : Prop := Semantics.Runs step Semantics.unguarded initial state

end Omairc.Net
