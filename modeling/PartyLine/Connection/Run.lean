import PartyLine.Transport.FarEnd

/-!
# Runs of one connection

A connection and its far end run until neither the actor nor the task has
anything to do: they *settle*. Time stands still meanwhile.

* `Link.turn`: the actor takes all of its messages, then the task goes on until
  it has to wait;
* `Link.settle`: turns until nothing is left to do.
-/

namespace PartyLine

/-- A connection, its far end, and the events reported so far. -/
structure Link where
  connection : Connection
  far : FarEnd
  events : List ConnectionEvent := []

namespace Link

/-- Performs an action of the connection; one that is not possible does nothing. -/
def perform (l : Link) (a : Connection.Action) : Link :=
  match l.connection.step? a with
  | some (c, es) => { l with connection := c, events := l.events ++ es }
  | none => l

/-- The actor takes so many messages. -/
def takeMessages : Nat → Link → Link
  | 0, l => l
  | n + 1, l => takeMessages n (l.perform .handle)

/-- The task goes on until it has to wait, for at most so many steps. -/
def runTask (now : Nat) : Nat → Link → Link
  | 0, l => l
  | fuel + 1, l =>
      match FarEnd.next? now l.connection l.far with
      | some (a, far) => runTask now fuel ({ l with far }.perform a)
      | none => l

/-- The number of steps that the task can make at most. -/
def taskBound (l : Link) : Nat := l.connection.queue.length + l.far.inbound.length + 4

/-- The actor starts if it has not, takes its messages, and the task goes on. -/
def turn (now : Nat) (l : Link) : Link :=
  let l := l.perform (.start now)
  let l := takeMessages l.connection.inbox.length l
  runTask now l.taskBound l

/-- Whether nothing is left to do. -/
def isQuiet (now : Nat) (l : Link) : Bool :=
  (l.connection.inbox.isEmpty || l.connection.stopped) &&
    (FarEnd.next? now l.connection l.far).isNone &&
    (l.connection.task != .unstarted || l.connection.stopped)

/-- Turns until nothing is left to do, at most so many. -/
def turns (now : Nat) : Nat → Link → Link
  | 0, l => l
  | fuel + 1, l => if l.isQuiet now then l else turns now fuel (l.turn now)

/-- Runs until nothing is left to do. -/
def settle (now : Nat) (l : Link) : Link := turns now (l.taskBound + 4) l

end Link

end PartyLine
