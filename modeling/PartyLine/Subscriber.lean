import PartyLine.Envelope
import PartyLine.Transport.Error

/-!
# Subscribers

A *subscriber* is told about the messages of a channel, about frames that could
not be decoded, and once how the channel ended. What it does in return is a
function of all it has been told: it may leave, release others, send, and subscribe
others.

* `Note`: one thing a subscriber is told;
* `Subscriber`: which notes it wants, and how it responds;
* `Listener`: a subscriber's flag and what it has heard.
-/

namespace PartyLine

/-- What a subscriber learns of a channel's errors. -/
inductive ChannelError where
  /-- The connection failed; the channel has ended. -/
  | transport (error : TransportError)
  /-- A frame could not be decoded; the channel goes on. -/
  | malformed (frame : MalformedFrame)
  deriving DecidableEq

namespace ChannelError

/-- Whether the channel has ended with the error. -/
def isTerminal : ChannelError → Bool
  | transport _ => true
  | malformed _ => false

/-- The wording of an error. -/
def message : ChannelError → String
  | transport e => "Transport error: " ++ e.message
  | malformed m => m.message

end ChannelError

/-- How a channel ended. -/
inductive Termination where
  /-- The connection closed cleanly. -/
  | completed
  /-- The connection failed. -/
  | failed (error : TransportError)
  deriving DecidableEq

/-- One call of a subscriber's callbacks. -/
inductive Note where
  | message (envelope : Envelope)
  | error (error : ChannelError)
  | complete
  deriving DecidableEq

/-- The note that tells of an end. -/
def Termination.note : Termination → Note
  | completed => .complete
  | failed e => .error (.transport e)

/-- Whether a note tells of the end. -/
def Note.isTerminal : Note → Bool
  | message _ => false
  | error e => e.isTerminal
  | complete => true

mutual

/-- What a subscriber asks for from inside a callback. -/
inductive Request where
  /-- To be told nothing more. -/
  | leave
  /-- To release the subscription of that number, its own or another. -/
  | release (id : Nat)
  /-- To send an envelope on the channel. -/
  | send (envelope : Envelope)
  /-- To subscribe another one to the channel. -/
  | subscribe (subscriber : Subscriber)

/-- The callbacks of a consumer. -/
structure Subscriber where
  /-- The only kind of messages it wants; all kinds if none. -/
  kind : Option String := none
  /-- Whether it wants errors. -/
  onError : Bool := true
  /-- Whether it wants to know of a clean end. -/
  onComplete : Bool := true
  /-- What it asks for, given all it has heard, the latest note last. -/
  respond : List Note → List Request := fun _ => []

end

/-- Whether a request is to be told nothing more. -/
def Request.isLeave : Request → Bool
  | leave => true
  | _ => false

namespace Subscriber

/-- Whether the subscriber has a callback that a note reaches. -/
def wants (s : Subscriber) : Note → Bool
  | .message e => s.kind.elim true e.is
  | .error _ => s.onError
  | .complete => s.onComplete

/-- The subscriber as a label shows it. -/
def label (s : Subscriber) : String :=
  let flag (b : Bool) : String := if b then "true" else "false"
  "Subscriber \x7b on_error: " ++ flag s.onError ++ ", on_complete: " ++ flag s.onComplete ++
    ", .. \x7d"

/-- The number of messages among some notes. -/
def messageCount (notes : List Note) : Nat :=
  notes.countP fun
    | .message _ => true
    | _ => false

/-- Asks for something once, on hearing the `n`-th message. -/
def onMessage (n : Nat) (request : Request) (heard : List Note) : List Request :=
  match heard.getLast? with
  | some (.message _) => if messageCount heard = n then [request] else []
  | _ => []

/-- Asks for something on hearing any message. -/
def onEveryMessage (request : Request) (heard : List Note) : List Request :=
  match heard.getLast? with
  | some (.message _) => [request]
  | _ => []

end Subscriber

/-- A subscriber's flag, which it may clear and which its end clears, and all
    that its callbacks were told. -/
structure Listener where
  active : Bool := true
  heard : List Note := []
  deriving DecidableEq

end PartyLine
