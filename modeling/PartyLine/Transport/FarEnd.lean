import PartyLine.Connection

/-!
# Far ends

The other side of a transport, played by a script: it lets a waiting attempt
through or refuses it, sends frames, fails or closes the link, and keeps what it
was sent. Frames sent before the connection is open wait and are read after it.

* `FarEnd.next?`: the next step of a connection's task, with this far end's
  answer, unless the task has to wait;
* `FarEnd.Gate`: whether attempts are held back.
-/

namespace PartyLine

namespace FarEnd

/-- What becomes of the attempt to connect. -/
inductive Gate where
  /-- It waits. -/
  | held
  | passed
  | refused (error : TransportError)
  deriving DecidableEq, Inhabited

/-- How disconnecting goes wrong. -/
inductive DisconnectFault where
  | error
  | hang
  deriving DecidableEq

/-- What goes wrong on this side of the link. -/
structure Faults where
  /-- Writing a frame that contains the text fails with the error. -/
  send : Option (String × TransportError) := none
  disconnect : Option DisconnectFault := none
  deriving DecidableEq

end FarEnd

/-- The far end of one transport. -/
structure FarEnd where
  url : String
  gate : FarEnd.Gate := .passed
  /-- What has been sent and not yet been read. -/
  inbound : List Received := []
  /-- The frames written by the connection. -/
  written : List String := []
  /-- Whether the connection has completed its disconnecting. -/
  disconnected : Bool := false
  /-- Whether the far end has vanished. -/
  gone : Bool := false
  faults : FarEnd.Faults := {}

namespace FarEnd

/-- Lets a waiting attempt through. -/
def letThrough (r : FarEnd) : FarEnd :=
  if r.gate = .held then { r with gate := .passed } else r

/-- Refuses a waiting attempt. -/
def refuse (r : FarEnd) (e : TransportError) : FarEnd :=
  if r.gate = .held then { r with gate := .refused e } else r

/-- Sends a frame, a failure or the end. -/
def send (r : FarEnd) (x : Received) : FarEnd := { r with inbound := r.inbound ++ [x] }

/-- What the connection finds where the far end was. -/
def vanished : String := "remote dropped"

/-- Vanishes, so that a waiting attempt fails. -/
def vanish (r : FarEnd) : FarEnd :=
  { r.refuse (.connectionFailed vanished) with gone := true }

/-- Whether a text contains another. -/
def hasInfix (needle : List Char) : List Char → Bool
  | [] => needle.isEmpty
  | c :: cs => needle.isPrefixOf (c :: cs) || hasInfix needle cs

/-- The error that writing a frame meets, if any. -/
def writeError? (r : FarEnd) (frame : String) : Option TransportError :=
  match r.faults.send with
  | some (needle, e) =>
      if hasInfix needle.toList frame.toList then some e
      else if r.gone then some (.sendFailed vanished) else none
  | none => if r.gone then some (.sendFailed vanished) else none

/-- Writes a frame: the error met, and the far end with what reached it. -/
def write (r : FarEnd) (frame : String) : Option TransportError × FarEnd :=
  match r.writeError? frame with
  | some e => (some e, r)
  | none => (none, { r with written := r.written ++ [frame] })

/-- Reads what was sent first; the end once all is read of a far end that is
    gone. Nothing while there is nothing to read. -/
def read? (r : FarEnd) : Option (Received × FarEnd) :=
  match r.inbound with
  | x :: rest => some (x, { r with inbound := rest })
  | [] => if r.gone then some (.ended, r) else none

/-- The next step of a connection's task at a time, and the far end after it;
    nothing while the task has to wait. An answer that is there is taken before
    the deadline is looked at; disconnecting in good order takes a moment, so
    that without any time allowed it expires. -/
def next? (now : Nat) (c : Connection) (r : FarEnd) : Option (Connection.Action × FarEnd) :=
  match c.task with
  | .unstarted | .finished => none
  | .connecting deadline =>
      match r.gate with
      | .passed => some (.connected none, r)
      | .refused e => some (.connected (some e), r)
      | .held => if deadline ≤ now then some (.connectExpired now, r) else none
  | .serving =>
      match c.queue with
      | frame :: _ =>
          let (answer, r) := r.write frame
          some (.wrote now answer, r)
      | [] =>
          if c.canQueue then r.read?.map fun (x, r) => (.received now x, r)
          else some (.queueClosed now, r)
  | .disconnecting deadline =>
      match r.faults.disconnect with
      | some .error => some (.disconnected, r)
      | some .hang => if deadline ≤ now then some (.disconnectExpired now, r) else none
      | none =>
          if deadline ≤ now then some (.disconnectExpired now, r)
          else some (.disconnected, { r with disconnected := true })

end FarEnd

end PartyLine
