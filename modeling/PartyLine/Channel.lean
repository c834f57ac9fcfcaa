import PartyLine.Connection
import PartyLine.Fanout
import PartyLine.Text.Quoted

/-!
# Channels

A channel is a connection shared by subscribers. Its *hub*, an actor with an
inbox of its own, decodes what the connection reports and fans it out; the
consumers' requests reach the hub through the same inbox, so a message is told
to every subscriber before the next frame is looked at.

A callback is run in the middle of the hub's turn, and what it asks for is done there and then: the
channel is the *host* of its own set, whose callbacks may change everything about it but the set
that goes round. For that reason a channel keeps its listeners outside the set, behind the numbers
of their handles. It has a journal, too, of all that has happened to it; nothing that a channel does
looks at the journal, which is there to be spoken about.

* `Channel.subscribe`, `Channel.release`, `Channel.send`: what consumers do;
* `Channel.takeMessage?`: the hub taking one message of its inbox;
* `Channel.act?`: the connection's small steps, its events going to the hub;
* `Channel.step?`: any of these, as one relation of steps.
-/

namespace PartyLine

/-- What a channel counts. -/
structure Statistics where
  /-- Frames decoded and fanned out. -/
  delivered : Nat := 0
  /-- Frames that could not be decoded. -/
  malformed : Nat := 0
  /-- Envelopes handed to the connection while it was open. -/
  sent : Nat := 0
  /-- Envelopes discarded because it was not. -/
  droppedSends : Nat := 0
  /-- Stored subscribers. -/
  subscribers : Nat := 0
  deriving DecidableEq, Inhabited

namespace Channel

/-- A message in the hub's inbox. Subscriptions are known by their number. -/
inductive Message where
  | subscribe (id : Nat) (subscriber : Subscriber)
  | unsubscribe (id : Nat)
  | event (e : ConnectionEvent)

/-- One thing that happens to a channel. -/
inductive Happening where
  | subscribed (id : Nat) (subscriber : Subscriber)
  /-- A release, from inside a callback of the caller if there is one. -/
  | released (id : Nat) (caller : Option Nat)
  /-- An envelope was handed to the connection. -/
  | sent (envelope : Envelope)
  /-- The hub took a message of its inbox. -/
  | took (message : Message)
  /-- The hub cleared the flag of a subscription, the channel having ended. -/
  | dismissed (id : Nat)
  /-- A callback of a subscription was run. -/
  | told (id : Nat) (note : Note)

end Channel

/-- A connection, its hub, and the handles given to consumers. -/
structure Channel where
  connection : Connection
  fanout : Fanout := {}
  /-- The hub's inbox. -/
  inbox : List Channel.Message := []
  /-- The listeners behind the handles, in the order of subscribing; the first
      has number 1. -/
  listeners : List Listener := []
  statistics : Statistics := {}
  /-- All that has happened, in order. -/
  journal : List Channel.Happening := []

namespace Channel

/-- The channel of a new connection, for whose transport there may be a fault. -/
def init (params : ConnectParams) (fault : Option TransportError) : Channel :=
  { connection := { params, fault } }

/-- The endpoint's URL. -/
def url (c : Channel) : String := c.connection.params.url

/-- The state of the connection. -/
def state (c : Channel) : ConnectionState := c.connection.state

/-- Whether the connection has ended. -/
def isTerminated (c : Channel) : Bool := c.state.isTerminal

/-- Puts a message into the hub's inbox. -/
def post (c : Channel) (m : Message) : Channel := { c with inbox := c.inbox ++ [m] }

/-- Puts something that happens into the journal. -/
def record (c : Channel) (x : Happening) : Channel := { c with journal := c.journal ++ [x] }

/-- The listener of a subscription. -/
def listener? (c : Channel) : Nat → Option Listener
  | 0 => none
  | i + 1 => c.listeners[i]?

/-- Changes the listener of a subscription. -/
def updateListener (c : Channel) (id : Nat) (g : Listener → Listener) : Channel :=
  match id with
  | 0 => c
  | i + 1 => { c with listeners := c.listeners.modify i g }

/-- Whether a subscription is active: neither released nor ended. -/
def isActive (c : Channel) (id : Nat) : Bool := (c.listener? id).elim false (·.active)

/-- Clears the flag of a subscription. -/
def deactivate (c : Channel) (id : Nat) : Channel :=
  c.updateListener id fun l => { l with active := false }

/-- Subscribes; the hub learns of it by a message. Returns the number. -/
def subscribe (c : Channel) (s : Subscriber) : Nat × Channel :=
  let id := c.listeners.length + 1
  (id, { c with listeners := c.listeners ++ [Listener.mk true []] }.post (.subscribe id s)
    |>.record (.subscribed id s))

/-- Releases a subscription: its flag is cleared at once, and the hub learns of
    it by a message if it was set. -/
def release (c : Channel) (id : Nat) (caller : Option Nat := none) : Channel :=
  match c.listener? id with
  | none => c
  | some l =>
      let c := c.record (.released id caller)
      if l.active then (c.deactivate id).post (.unsubscribe id) else c

/-- Hands an envelope to the connection, and counts it. -/
def handOver (c : Channel) (e : Envelope) : Channel :=
  { c with
    connection := c.connection.post (.send e.encode)
    statistics := { c.statistics with sent := c.statistics.sent + 1 } }.record (.sent e)

/-- Sends an envelope if the connection is open, and counts it either way. -/
def send (c : Channel) (e : Envelope) : Channel :=
  if c.state.isOpen then c.handOver e
  else
    { c with statistics := { c.statistics with droppedSends := c.statistics.droppedSends + 1 } }

/-- Does what a subscriber asks for from inside a callback. -/
def grant (c : Channel) (id : Nat) : Request → Channel
  | .leave => c.release id (some id)
  | .release other => c.release other (some id)
  | .send e => c.send e
  | .subscribe s => (c.subscribe s).2

/-- Runs the callback alone: the note is heard. -/
def hear (c : Channel) (id : Nat) (note : Note) : Channel :=
  (c.updateListener id fun l => { l with heard := l.heard ++ [note] }).record (.told id note)

/-- Runs a callback: the note is heard, then what the subscriber asks for is done. -/
def tell (c : Channel) (id : Nat) (s : Subscriber) (note : Note) : Channel :=
  let c := c.hear id note
  (s.respond ((c.listener? id).elim [] (·.heard))).foldl (fun c r => c.grant id r) c

/-- Clears the flag of a subscription at the end. -/
def dismiss (c : Channel) (id : Nat) : Channel := (c.deactivate id).record (.dismissed id)

/-- The channel as the host of its fanout. -/
def host : Host Channel where
  isActive := isActive
  deactivate id c := c.dismiss id
  notify id s note c := c.tell id s note

/-- Changes what is counted. -/
def count (c : Channel) (g : Statistics → Statistics) : Channel :=
  { c with statistics := g c.statistics }

/-- Brings the number of subscribers up to date. -/
def countSubscribers (c : Channel) : Channel :=
  c.count fun s => { s with subscribers := c.fanout.size }

/-- The end of the channel. -/
def terminate (c : Channel) (t : Termination) : Channel :=
  let (_, fanout, c) := c.fanout.terminate host t c
  { c with fanout }.count fun s => { s with subscribers := 0 }

/-- The hub's handling of what the connection reports. -/
def handleEvent (c : Channel) : ConnectionEvent → Channel
  | .opened => c
  | .frame f =>
      match Envelope.decode f with
      | .ok e =>
          let (_, c) := c.fanout.deliver host e c
          c.count fun s => { s with delivered := s.delivered + 1 }
      | .error m =>
          let c := c.count fun s => { s with malformed := s.malformed + 1 }
          (c.fanout.report host (.malformed m) c).2
  | .failed e => c.terminate (.failed e)
  | .closed => c.terminate .completed

/-- The hub's handling of one message. -/
def handle (c : Channel) : Message → Channel
  | .subscribe id s =>
      let (stored, fanout, c) :=
        c.fanout.insert host { id, listener := id, subscriber := s } c
      let c := { c with fanout }
      if stored then c.countSubscribers else c
  | .unsubscribe id =>
      let (removed, fanout) := c.fanout.remove id
      let c := { c with fanout }
      if removed then c.countSubscribers else c
  | .event e => c.handleEvent e

/-- The hub takes the next message; nothing if its inbox is empty. -/
def takeMessage? (c : Channel) : Option Channel :=
  match c.inbox with
  | [] => none
  | m :: rest => some (({ c with inbox := rest }.record (.took m)).handle m)

/-- The channel as a label shows it. -/
def label (c : Channel) : String :=
  "Channel \x7b url: " ++ Text.quoted c.url ++ ", state: " ++ c.state.label ++ ", .. \x7d"

/-- A subscription as a label shows it. -/
def subscriptionLabel (c : Channel) (id : Nat) : String :=
  "Subscription \x7b id: SubscriptionId(" ++ toString id ++ "), active: " ++
    (if c.isActive id then "true" else "false") ++ ", .. \x7d"

/-- A small step of the connection, its events going to the hub. -/
def act? (c : Channel) (a : Connection.Action) : Option Channel :=
  (c.connection.step? a).map fun (connection, events) =>
    { c with connection, inbox := c.inbox ++ events.map .event }

/-- What can happen to a channel. -/
inductive Action where
  /-- A small step of the connection. -/
  | connection (a : Connection.Action)
  /-- The hub takes a message. -/
  | hub
  | subscribe (subscriber : Subscriber)
  | release (id : Nat)
  | send (e : Envelope)

/-- The channel after an action; nothing if it is not possible. -/
def step? (c : Channel) : Action → Option Channel
  | .connection a => c.act? a
  | .hub => c.takeMessage?
  | .subscribe s => some (c.subscribe s).2
  | .release id => some (c.release id)
  | .send e => some (c.send e)

end Channel

end PartyLine
