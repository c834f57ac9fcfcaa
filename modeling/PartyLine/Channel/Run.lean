import PartyLine.Channel
import PartyLine.Connection.Run

/-!
# Runs of one channel

A channel and the far end of its connection run until neither the connection
nor the hub has anything to do. In each turn the connection's actor takes all of
its messages, its task goes on until it has to wait, and then the hub takes all
of its messages.

* `Circuit.settle`: turns until nothing is left to do.
-/

namespace PartyLine

/-- A channel and the far end of its connection. -/
structure Circuit where
  channel : Channel
  far : FarEnd

namespace Circuit

/-- The connection with its far end, as a link. -/
def link (l : Circuit) : Link := { connection := l.channel.connection, far := l.far }

/-- The connection's turn, its events going to the hub. -/
def connectionTurn (now : Nat) (l : Circuit) : Circuit :=
  let link := l.link.turn now
  { channel := { l.channel with
      connection := link.connection
      inbox := l.channel.inbox ++ link.events.map .event }
    far := link.far }

/-- The hub takes so many messages. -/
def takeMessages : Nat → Channel → Channel
  | 0, c => c
  | n + 1, c => takeMessages n (c.takeMessage?.getD c)

/-- The connection's turn and then the hub's. -/
def turn (now : Nat) (l : Circuit) : Circuit :=
  let l := l.connectionTurn now
  { l with channel := takeMessages l.channel.inbox.length l.channel }

/-- Whether nothing is left to do. -/
def isQuiet (now : Nat) (l : Circuit) : Bool :=
  l.link.isQuiet now && l.channel.inbox.isEmpty

/-- Turns until nothing is left to do, at most so many. -/
def turns (now : Nat) : Nat → Circuit → Circuit
  | 0, l => l
  | fuel + 1, l => if l.isQuiet now then l else turns now fuel (l.turn now)

/-- Runs until nothing is left to do. Whatever callbacks send is written in the
    turn after and brings no new messages but a failure, so that few turns beyond
    the connection's own are needed. -/
def settle (now : Nat) (l : Circuit) : Circuit := turns now (l.link.taskBound + 8) l

end Circuit

end PartyLine
