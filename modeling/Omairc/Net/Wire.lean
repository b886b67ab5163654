import Omairc.Session.Events

/-!
# The messages between the UI thread and the net thread

Commands travel from the UI thread to the net thread and events travel back. Each one
names its connection, and a connect, a write or an event also names the epoch it
belongs to. Epochs are natural numbers: the source counts them in 64 bits, one for
each connect or shutdown.
-/

namespace Omairc.Net

open Omairc.Text Omairc.Session

/-- The identity of one socket transport. -/
abbrev ConnId := Nat

/-- What a worker saw on its connection. -/
inductive IoEvent
  | connected
  | encrypted
  | bytes (received : Bytes)
  | closed
  | failed (error : TransportError)
  deriving DecidableEq

/-- A request to the net thread. A worker sends `finished` about itself. -/
inductive Command
  | connect (conn : ConnId) (epoch : Nat) (host : String) (port : UInt16) (tls : Bool)
  | write (conn : ConnId) (epoch : Nat) (frame : Bytes)
  | close (conn : ConnId)
  | finished (conn : ConnId) (epoch : Nat)
  | stop
  deriving DecidableEq

/-- The connection and epoch a task reports under. -/
structure Tag where
  conn : ConnId
  epoch : Nat
  deriving DecidableEq

/-- The tag a connect command starts a task under. -/
def Command.connectTag : Command → Option Tag
  | .connect conn epoch _ _ _ => some { conn, epoch }
  | _ => none

/-- The frame a write command carries for one tag. -/
def Command.writeFor (tag : Tag) : Command → Option Bytes
  | .write conn epoch frame => if conn = tag.conn ∧ epoch = tag.epoch then some frame else none
  | _ => none

@[simp] theorem Command.connectTag_connect (conn : ConnId) (epoch : Nat) (host : String)
    (port : UInt16) (tls : Bool) :
    (Command.connect conn epoch host port tls).connectTag = some { conn, epoch } := rfl

@[simp] theorem Command.connectTag_write (conn : ConnId) (epoch : Nat) (frame : Bytes) :
    (Command.write conn epoch frame).connectTag = none := rfl

@[simp] theorem Command.connectTag_close (conn : ConnId) :
    (Command.close conn).connectTag = none := rfl

@[simp] theorem Command.connectTag_finished (conn : ConnId) (epoch : Nat) :
    (Command.finished conn epoch).connectTag = none := rfl

@[simp] theorem Command.connectTag_stop : Command.stop.connectTag = none := rfl

@[simp] theorem Command.writeFor_connect (tag : Tag) (conn : ConnId) (epoch : Nat)
    (host : String) (port : UInt16) (tls : Bool) :
    (Command.connect conn epoch host port tls).writeFor tag = none := rfl

@[simp] theorem Command.writeFor_close (tag : Tag) (conn : ConnId) :
    (Command.close conn).writeFor tag = none := rfl

@[simp] theorem Command.writeFor_finished (tag : Tag) (conn : ConnId) (epoch : Nat) :
    (Command.finished conn epoch).writeFor tag = none := rfl

@[simp] theorem Command.writeFor_stop (tag : Tag) : Command.stop.writeFor tag = none := rfl

end Omairc.Net
