import PartyLine.Subscriber

/-!
# Fanout

The set of a channel's subscribers, with a latch for its end. Delivering hands a
note to every stored subscriber whose flag is set at its turn; terminating does
so for the last time and empties the set; whoever comes later is told of the end
at once.

Callbacks act on a state of their own, the *host's*, which holds the flags; the
set itself changes only by the operations below.

A round is a recursion over the entries as the set has them when it begins: what callbacks do to
the set's owner meanwhile is done to the host, and is seen by the flags alone. So a subscriber
released during a round, by whomever, is passed over if its turn has not come; and whoever
subscribes during a round is not part of it.

* `Fanout.insert`, `Fanout.remove`: the set;
* `Fanout.deliver`, `Fanout.report`, `Fanout.terminate`: the notes, and how many
  subscribers they reached.
-/

namespace PartyLine

/-- Where the flags of listeners live and their callbacks run. -/
structure Host (σ : Type) where
  /-- Whether a listener's flag is set. -/
  isActive : σ → Nat → Bool
  /-- Clears a listener's flag. -/
  deactivate : Nat → σ → σ
  /-- Runs a callback of a listener. -/
  notify : Nat → Subscriber → Note → σ → σ

/-- Runs a subscriber's callback for a note, if it has one. -/
def Host.tell {σ : Type} (h : Host σ) (listener : Nat) (s : Subscriber) (note : Note) (world : σ) :
    σ :=
  if s.wants note then h.notify listener s note world else world

namespace Fanout

/-- A stored subscriber: the number it is known by, and whose flag and callbacks
    it goes with. -/
structure Entry where
  id : Nat
  listener : Nat
  subscriber : Subscriber

end Fanout

/-- The stored subscribers in the order of their arrival, and how it ended. -/
structure Fanout where
  entries : List Fanout.Entry := []
  termination : Option Termination := none

namespace Fanout

variable {σ : Type} (h : Host σ)

/-- The number of stored subscribers. -/
def size (f : Fanout) : Nat := f.entries.length

/-- Whether a subscriber is stored under that number. -/
def contains (f : Fanout) (id : Nat) : Bool := f.entries.any (·.id == id)

/-- Stores an entry in the place of the one with its number, or behind all. -/
def store (f : Fanout) (e : Entry) : Fanout :=
  if f.contains e.id then
    { f with entries := f.entries.map fun old => if old.id == e.id then e else old }
  else
    { f with entries := f.entries ++ [e] }

/-- Adds a subscriber and says whether it was stored. After the end it is told
    of it instead; with its flag cleared it is dropped. -/
def insert (f : Fanout) (e : Entry) (world : σ) : Bool × Fanout × σ :=
  match f.termination with
  | some t => (false, f, h.tell e.listener e.subscriber t.note (h.deactivate e.listener world))
  | none =>
      if h.isActive world e.listener then (true, f.store e, world) else (false, f, world)

/-- Takes the subscriber of that number out and says whether there was one. -/
def remove (f : Fanout) (id : Nat) : Bool × Fanout :=
  (f.contains id, { f with entries := f.entries.filter (·.id != id) })

/-- Tells a note to the entries in turn, each only if its flag is then set, and
    counts these. -/
def tellAll (note : Note) : List Entry → σ → Nat × σ
  | [], world => (0, world)
  | e :: es, world =>
      if h.isActive world e.listener then
        let (n, world) := tellAll note es (h.tell e.listener e.subscriber note world)
        (n + 1, world)
      else
        tellAll note es world

/-- Hands an envelope to every active subscriber. -/
def deliver (f : Fanout) (e : Envelope) (world : σ) : Nat × σ :=
  if f.termination.isSome then (0, world) else tellAll h (.message e) f.entries world

/-- Reports an error to every active subscriber. -/
def report (f : Fanout) (e : ChannelError) (world : σ) : Nat × σ :=
  if f.termination.isSome then (0, world) else tellAll h (.error e) f.entries world

/-- Tells the entries of the end, each only if its flag is then set; it is
    cleared first. -/
def finishAll (t : Termination) : List Entry → σ → Nat × σ
  | [], world => (0, world)
  | e :: es, world =>
      if h.isActive world e.listener then
        let (n, world) := finishAll t es
          (h.tell e.listener e.subscriber t.note (h.deactivate e.listener world))
        (n + 1, world)
      else
        finishAll t es world

/-- Ends the set: its active subscribers are told and it is empty from then on.
    Only the first end counts. -/
def terminate (f : Fanout) (t : Termination) (world : σ) : Nat × Fanout × σ :=
  if f.termination.isSome then (0, f, world)
  else
    let (n, world) := finishAll h t f.entries world
    (n, { entries := [], termination := some t }, world)

end Fanout

/-- Listeners on their own, whose callbacks can but clear their own flag. -/
abbrev Audience := List Listener

namespace Audience

/-- Changes one listener. -/
def update (a : Audience) (i : Nat) (g : Listener → Listener) : Audience := a.modify i g

/-- Sets or clears a flag. -/
def setActive (a : Audience) (i : Nat) (active : Bool) : Audience :=
  a.update i fun l => { l with active }

/-- Whether a listener's flag is set. -/
def isActive (a : Audience) (i : Nat) : Bool := (a[i]?).elim false (·.active)

/-- Tells a listener a note; it clears its flag if it asks to leave. -/
def hear (a : Audience) (i : Nat) (s : Subscriber) (note : Note) : Audience :=
  a.update i fun l =>
    let heard := l.heard ++ [note]
    { active := l.active && !(s.respond heard).any (·.isLeave), heard }

/-- Listeners as a host. -/
def host : Host Audience where
  isActive := isActive
  deactivate i a := a.setActive i false
  notify i s note a := a.hear i s note

end Audience

end PartyLine
