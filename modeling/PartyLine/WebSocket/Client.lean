import PartyLine.Connection
import PartyLine.WebSocket.Socket

/-!
# WebSocket transports

A transport over a WebSocket connection. Only texts are frames of the transport:
receiving passes over all else until a text comes or the connection ends.

* `WebSocket.receive?`: the next frame of whatever yields a socket's items;
* `WebSocket.Client`: the transport, before and after connecting.
-/

namespace PartyLine

namespace WebSocket

/-- What an item is to a transport; nothing if it is passed over. -/
def Item.received? : Item → Option Received
  | text value => some (.frame value)
  | binary _ | ping _ | pong _ | raw _ => none
  | close | ended | failed .connectionClosed | failed .alreadyClosed => some .ended
  | failed e => some (.failed e.toTransport)

/-- The next frame, failure or end that a source of items yields, of which at
    most so many are taken; nothing while it has not come. -/
def receive? {σ : Type} (next? : σ → Option (Item × σ)) : Nat → σ → Option Received × σ
  | 0, source => (none, source)
  | fuel + 1, source =>
      match next? source with
      | none => (none, source)
      | some (item, source) =>
          match item.received? with
          | some r => (some r, source)
          | none => receive? next? fuel source

/-- A transport: its parameters, and its socket when it is connected. -/
structure Client where
  params : ConnectParams
  socket : Option Socket := none

namespace Client

/-- Connects with the outcome of the handshake. -/
def connect (c : Client) (outcome : Except Failure Socket) : Option TransportError × Client :=
  match c.socket, outcome with
  | some _, _ => (some (.connectionFailed "Already connected"), c)
  | none, .ok s => (none, { c with socket := some s })
  | none, .error e => (some e.toTransport, c)

/-- Disconnects, which closes the socket and gives it up, and hands it back as it
    was left. There is nothing to do without a connection. -/
def disconnect (c : Client) : Option Socket × Client :=
  (c.socket.map (·.close), { c with socket := none })

/-- Sends a frame. -/
def send (c : Client) (frame : String) : Option TransportError × Client :=
  match c.socket with
  | none => (some (.notConnected "WebSocket sink unavailable"), c)
  | some s =>
      match s.write { opcode := .text, payload := Text.Utf8.toBytes frame } with
      | .ok s => (none, { c with socket := some s })
      | .error e => (some e.toTransport, c)

/-- Receives the next frame; nothing while it has not come. -/
def receive (c : Client) : Option Received × Client :=
  match c.socket with
  | none => (some .ended, c)
  | some s =>
      let (r, s) := receive? Socket.next? (s.inbound.length + 2) s
      (r, { c with socket := some s })

end Client

end WebSocket

end PartyLine
