import PartyLine.Channel.Run
import PartyLine.Registry

/-!
# Sessions

A client, its registry and the channels that it has opened, with the far ends of
their connections and a clock. What consumers and far ends do takes effect at
once; then everything settles, each channel on its own.

The far ends are there to be played, and are no part of the client: a scripted factory makes
transports that another party drives, and the factory for WebSocket connections makes such that wait
for an answer which nobody gives here. Channels are known by their place in the order of
opening, and a channel that is replaced stays in its place, with all its handles.

* `Session.connect`: the registry's decision, carried out by the factory;
* `Session.settle`, `Session.advance`: running, and the passing of time.
-/

namespace PartyLine

/-- What transports a factory makes. -/
inductive Factory where
  /-- Transports whose far ends are scripted: which attempts wait, for which
      URLs there is no transport, and what goes wrong later. -/
  | scripted (holds : String → Bool) (fails : List (String × TransportError))
      (faults : FarEnd.Faults)
  /-- WebSocket transports. -/
  | webSocket

namespace Factory

/-- A transport's far end, or the error for want of a transport. -/
def create (f : Factory) (url : String) : Except TransportError FarEnd :=
  match f with
  | scripted holds fails faults =>
      match fails.lookup url with
      | some e => .error e
      | none => .ok { url, gate := if holds url then .held else .passed, faults }
  | webSocket => do
      createTransport url
      -- an address that leads nowhere refuses the attempt; no other is tried here
      match WebSocket.locate url with
      | .error e => return { url, gate := .refused e.toTransport }
      | .ok _ => return { url, gate := .held }

/-- Whether the far ends it makes can be played. -/
def isScripted : Factory → Bool
  | scripted .. => true
  | webSocket => false

end Factory

/-- A circuit, and whether its far end can be played. -/
structure Session.Station where
  circuit : Circuit
  scripted : Bool

/-- A client at work. -/
structure Session where
  settings : Settings
  factory : Factory
  /-- Whether actors can be started where the client connects. -/
  hasSystem : Bool := true
  registry : Registry := { policy := settings.onTerminated }
  stations : List Session.Station := []
  /-- The URLs for which the factory was asked. -/
  requested : List String := []
  now : Nat := 0

namespace Session

/-- The channel at a place in the order of opening. -/
def channel? (s : Session) (i : Nat) : Option Channel := s.stations[i]?.map (·.circuit.channel)

/-- Whether a channel has ended. -/
def hasEnded (s : Session) (i : Nat) : Bool := (s.channel? i).elim false (·.isTerminated)

/-- Opens a channel; it starts when the session settles. -/
def openChannel (s : Session) (url : String) : Nat × Session :=
  let params := ConnectParams.ofSettings url s.settings.transport
  let station : Station := match s.factory.create url with
    | .ok far => ⟨⟨.init params none, far⟩, s.factory.isScripted⟩
    | .error e => ⟨⟨.init params (some e), { url }⟩, false⟩
  let i := s.stations.length
  (i, { s with
    registry := s.registry.insert url i
    stations := s.stations ++ [station]
    requested := s.requested ++ [url] })

/-- The channel of a URL, opened if need be. -/
def connect (s : Session) (url : String) : Except ConnectError Nat × Session :=
  match s.registry.decision url s.hasEnded s.hasSystem with
  | .error e => (.error e, s)
  | .ok (.reuse i) => (.ok i, s)
  | .ok .create =>
      let (i, s) := s.openChannel url
      (.ok i, s)

/-- Changes the channel at a place. -/
def updateChannel (s : Session) (i : Nat) (g : Channel → Channel) : Session :=
  { s with stations := s.stations.modify i fun t =>
      { t with circuit := { t.circuit with channel := g t.circuit.channel } } }

/-- Subscribes at a channel; nothing if there is no such channel. -/
def subscribe (s : Session) (i : Nat) (sub : Subscriber) : Option (Nat × Session) :=
  (s.channel? i).map fun c =>
    let (id, c) := c.subscribe sub
    (id, s.updateChannel i fun _ => c)

/-- Releases a subscription of a channel. -/
def release (s : Session) (i id : Nat) : Session := s.updateChannel i (·.release id)

/-- Sends an envelope on a channel. -/
def send (s : Session) (i : Nat) (e : Envelope) : Session := s.updateChannel i (·.send e)

/-- The places of the channels whose far ends can be played. -/
def playable (s : Session) : List Nat :=
  (List.range s.stations.length).filter fun i => (s.stations[i]?).elim false (·.scripted)

/-- The far ends that can be played, in the order of their making. -/
def farEnds (s : Session) : List FarEnd :=
  (s.stations.filter (·.scripted)).map (·.circuit.far)

/-- Changes the far end of that place among those that can be played. -/
def updateFarEnd (s : Session) (n : Nat) (g : FarEnd → FarEnd) : Session :=
  match s.playable[n]? with
  | some i =>
      { s with stations := s.stations.modify i fun t =>
          { t with circuit := { t.circuit with far := g t.circuit.far } } }
  | none => s

/-- Runs every channel until nothing is left to do. -/
def settle (s : Session) : Session :=
  { s with stations := s.stations.map fun t => { t with circuit := t.circuit.settle s.now } }

/-- Lets time pass. -/
def advance (s : Session) (ms : Nat) : Session := { s with now := s.now + ms }

end Session

end PartyLine
