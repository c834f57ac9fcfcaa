import PartyLine.Connection.State
import PartyLine.Settings
import PartyLine.Transport.Error

/-!
# Connections

A connection is an actor with an inbox and a task. The task drives the
transport: it connects, then writes what is queued and reads what arrives, and
at the end disconnects; it tells the actor by messages. The actor is the only
one to change the state; it reports to its owner, and a terminal state stops it
once the task is done.

`Connection.step?` is one small step of either: the actor taking one message, or
the task going on with one answer of the transport. The answers are part of the
action, so that the steps describe every transport.

The state is the actor's, and lags behind the task: what the task has found out is a message in the
inbox until the actor comes to it. The queue is the task's, and the actor only holds an end of it;
dropping that end is how the actor tells the task that it has had enough. Deadlines are times of a
clock that is not part of the connection.
-/

namespace PartyLine

/-- What a connection reports to its owner. -/
inductive ConnectionEvent where
  | opened
  | frame (text : String)
  | failed (error : TransportError)
  | closed
  deriving DecidableEq

/-- What reading from a transport can bring. -/
inductive Received where
  | frame (text : String)
  | failed (error : TransportError)
  /-- The remote end closed cleanly. -/
  | ended
  deriving DecidableEq

namespace Connection

/-- A message in a connection's inbox. -/
inductive Message where
  | connected
  | received (frame : String)
  | failed (error : TransportError)
  | ended
  /-- The owner's request to write a frame. -/
  | send (frame : String)
  deriving DecidableEq

/-- What the task is doing. A deadline is the time at which waiting ends. -/
inductive Task where
  | unstarted
  | connecting (deadline : Nat)
  /-- Writes what is queued and reads what arrives. -/
  | serving
  | disconnecting (deadline : Nat)
  | finished
  deriving DecidableEq, Inhabited

/-- Whether the task has begun and not ended. -/
def Task.isRunning : Task → Bool
  | unstarted | finished => false
  | _ => true

end Connection

/-- The actor of one connection and its task. -/
structure Connection where
  params : ConnectParams
  /-- What there was no transport for, if so. -/
  fault : Option TransportError := none
  state : ConnectionState := .idle
  task : Connection.Task := .unstarted
  /-- Whether the actor can still queue frames for the task. -/
  canQueue : Bool := false
  /-- The frames that the task has still to write. -/
  queue : List String := []
  inbox : List Connection.Message := []
  stopped : Bool := false

namespace Connection

/-- The actor's end: nothing more is queued, and a task still running is cut off. -/
def stop (c : Connection) : Connection :=
  { c with stopped := true, canQueue := false, task := .finished }

/-- Puts a message into the inbox. -/
def post (c : Connection) (m : Message) : Connection := { c with inbox := c.inbox ++ [m] }

/-- Applies a signal. A valid one changes the state and is reported; a terminal
    state ends the queueing, and the actor too unless its task is running. -/
def transition (c : Connection) (signal : Signal) (report : List ConnectionEvent) :
    Connection × List ConnectionEvent :=
  match c.state.next signal with
  | none => (c, [])
  | some next =>
      let c := { c with state := next }
      if next.isTerminal then
        let c := { c with canQueue := false }
        (if c.task.isRunning then c else c.stop, report)
      else
        (c, report)

/-- The actor's start: the attempt begins, or fails for want of a transport. -/
def start (c : Connection) (now : Nat) : Connection :=
  let (c, _) := c.transition .initiate []
  match c.fault with
  | some e => { c with task := .finished }.post (.failed e)
  | none => { c with task := .connecting (now + c.params.connectTimeout), canQueue := true }

/-- The actor's handling of one message. -/
def handle (c : Connection) : Message → Connection × List ConnectionEvent
  | .connected => c.transition .opened [.opened]
  | .received f => (c, if c.state.isOpen then [.frame f] else [])
  | .failed e => c.transition .failed [.failed e]
  | .ended => c.transition .closed [.closed]
  | .send f =>
      (if c.state.isOpen ∧ c.canQueue then { c with queue := c.queue ++ [f] } else c, [])

/-- The end of the task, which stops an actor in a terminal state. -/
def finish (c : Connection) : Connection :=
  let c := { c with task := .finished }
  if c.state.isTerminal then c.stop else c

/-- Leaves the loop for the disconnecting. -/
def leave (c : Connection) (now : Nat) : Connection :=
  { c with task := .disconnecting (now + c.params.connectTimeout) }

/-- A small step of the actor or of its task. -/
inductive Action where
  | start (now : Nat)
  /-- The actor takes the next message. -/
  | handle
  /-- The transport's answer to connecting. -/
  | connected (answer : Option TransportError)
  /-- Connecting has taken too long. -/
  | connectExpired (now : Nat)
  /-- The transport's answer to writing the first queued frame. -/
  | wrote (now : Nat) (answer : Option TransportError)
  /-- Nothing is queued and nothing can be any more. -/
  | queueClosed (now : Nat)
  /-- The transport's answer to reading, while nothing is queued. -/
  | received (now : Nat) (answer : Received)
  /-- The transport's disconnecting has ended, well or not. -/
  | disconnected
  /-- Disconnecting has taken too long. -/
  | disconnectExpired (now : Nat)
  deriving DecidableEq

/-- The task's reaction to an answer to reading. -/
def take (c : Connection) (now : Nat) : Received → Connection
  | .frame f => c.post (.received f)
  | .failed e => (c.post (.failed e)).leave now
  | .ended => (c.post .ended).leave now

/-- The connection after an action and the events it reports; nothing if the
    action is not possible. -/
def step? (c : Connection) : Action → Option (Connection × List ConnectionEvent)
  | .start now => if c.task = .unstarted ∧ !c.stopped then some (c.start now, []) else none
  | .handle =>
      if c.stopped then none
      else
        match c.inbox with
        | [] => none
        | m :: rest => some ({ c with inbox := rest }.handle m)
  | .connected answer =>
      match c.task, answer with
      | .connecting _, none => some ({ c with task := .serving }.post .connected, [])
      | .connecting _, some e => some ((c.post (.failed e)).finish, [])
      | _, _ => none
  | .connectExpired now =>
      match c.task with
      | .connecting deadline =>
          if deadline ≤ now then some ((c.post (.failed .timeout)).finish, []) else none
      | _ => none
  | .wrote now answer =>
      match c.task, c.queue, answer with
      | .serving, _ :: rest, none => some ({ c with queue := rest }, [])
      | .serving, _ :: rest, some e =>
          some (({ c with queue := rest }.post (.failed e)).leave now, [])
      | _, _, _ => none
  | .queueClosed now =>
      if c.task = .serving ∧ c.queue.isEmpty ∧ !c.canQueue then some (c.leave now, []) else none
  | .received now answer =>
      if c.task = .serving ∧ c.queue.isEmpty ∧ c.canQueue then some (c.take now answer, [])
      else none
  | .disconnected =>
      match c.task with
      | .disconnecting _ => some (c.finish, [])
      | _ => none
  | .disconnectExpired now =>
      match c.task with
      | .disconnecting deadline => if deadline ≤ now then some (c.finish, []) else none
      | _ => none

end Connection

end PartyLine
