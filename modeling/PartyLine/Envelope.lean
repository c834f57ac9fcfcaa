import PartyLine.Json.Reader
import PartyLine.Record

/-!
# Envelopes

An *envelope* is what every text frame carries: a kind, by which consumers
filter, and data that is passed on untouched. On the wire it is the JSON object
with the members `type` and `data`.

* `Envelope.encode`: the frame of an envelope;
* `Envelope.decode`: the envelope of a frame. Other members are ignored, missing
  data is null, and anything that is no object with a string `type` is a
  `MalformedFrame`.
-/

namespace PartyLine

/-- A message: its kind and its data. -/
structure Envelope where
  kind : String
  data : Payload := .null
  deriving DecidableEq, Inhabited

/-- A frame that holds no envelope, and why. -/
structure MalformedFrame where
  reason : String
  frame : String
  deriving DecidableEq, Inhabited

/-- The wording of the error. -/
def MalformedFrame.message (m : MalformedFrame) : String := "Malformed frame: " ++ m.reason

namespace Envelope

/-- Whether the envelope has that kind. -/
def is (e : Envelope) (kind : String) : Bool := e.kind == kind

/-- The fields of an envelope on the wire. -/
def schema : Schema where
  name := "Envelope"
  fields := [
    { name := "type", type := .text },
    { name := "data", type := .anything, absent := some .null }]

/-- The envelope of its fields. -/
def ofValues : schema.Values → Envelope
  | (kind, data, ()) => { kind, data }

/-- The document of an envelope, its kind first. -/
def toJson (e : Envelope) : Json :=
  .object (.cons "type" (.string e.kind) (.cons "data" e.data.document .nil))

/-- The frame of an envelope. -/
def encode (e : Envelope) : String := e.toJson.text

/-- Why a frame is no envelope. -/
inductive DecodeError where
  | grammar (error : Json.SyntaxError)
  | noObject
  | shape (error : ShapeError)
  deriving DecidableEq

/-- The wording of the reason. -/
def DecodeError.message : DecodeError → String
  | grammar e => e.message
  | noObject => "expected a JSON object"
  | shape e => e.message

/-- The envelope of what a frame means. -/
def ofPayload (p : Payload) : Except DecodeError Envelope :=
  match p.document with
  | .object _ => ((schema.read p).map ofValues).mapError .shape
  | _ => .error .noObject

/-- The envelope of a frame, or why there is none. -/
def read (frame : String) : Except DecodeError Envelope := do
  let p ← (Payload.parse frame).mapError .grammar
  ofPayload p

/-- The envelope of a frame. -/
def decode (frame : String) : Except MalformedFrame Envelope :=
  (read frame).mapError fun e => { reason := e.message, frame }

end Envelope

end PartyLine
