import PartyLine.Envelope

/-!
# The engine's messages

What the execution engine sends and is sent, as typed bodies of envelopes: it is
asked to run or to compile a script, answers with the outcome, and reports lines
of text in between.

* `Engine.Event.ofEnvelope`: an inbound envelope as an event of the engine;
* `Engine.run`, `Engine.compile`: the requests.
-/

namespace PartyLine

namespace Engine

/-- The kinds of the engine's envelopes. -/
inductive Kind where
  | log
  | result
  | output
  | run
  | compile
  deriving DecidableEq

/-- The kind as it stands in an envelope. -/
def Kind.name : Kind → String
  | log => "LOG"
  | result => "RESULT"
  | output => "OUTPUT"
  | run => "RUN"
  | compile => "COMPILE"

/-- The kind of that name. -/
def Kind.ofName? (name : String) : Option Kind :=
  [log, result, output, run, compile].find? (·.name == name)

/-- The body of a request: the script. -/
structure ScriptRequest where
  script : String
  deriving DecidableEq

namespace ScriptRequest

/-- The fields of a request. -/
def schema : Schema where
  name := "ScriptRequest"
  fields := [{ name := "script", type := .text }]

/-- The request of its fields. -/
def ofValues : schema.Values → ScriptRequest
  | (script, ()) => { script }

/-- The document of a request. -/
def toJson (r : ScriptRequest) : Json :=
  .object (.cons "script" (.string r.script) .nil)

end ScriptRequest

/-- The body of the answer to a request. -/
structure RunResponse where
  success : Bool
  error : Option String := none
  deriving DecidableEq

namespace RunResponse

/-- The fields of an answer. -/
def schema : Schema where
  name := "RunResponse"
  fields := [
    { name := "success", type := .flag },
    { name := "error", type := .optionalText, absent := some none }]

/-- The answer of its fields. -/
def ofValues : schema.Values → RunResponse
  | (success, error, ()) => { success, error }

/-- The document of an answer, without an error where there is none. -/
def toJson (r : RunResponse) : Json :=
  .object (.cons "success" (.bool r.success)
    (match r.error with
    | some e => .cons "error" (.string e) .nil
    | none => .nil))

end RunResponse

/-- The body of a report: one line of text. -/
structure OutputEntry where
  entry : String
  deriving DecidableEq

namespace OutputEntry

/-- The fields of a report. -/
def schema : Schema where
  name := "OutputEntry"
  fields := [{ name := "entry", type := .text }]

/-- The report of its fields. -/
def ofValues : schema.Values → OutputEntry
  | (entry, ()) => { entry }

/-- The document of a report. -/
def toJson (o : OutputEntry) : Json :=
  .object (.cons "entry" (.string o.entry) .nil)

end OutputEntry

/-- The request of that kind with a script. -/
def request (kind : Kind) (script : String) : Envelope :=
  { kind := kind.name, data := .ofJson (ScriptRequest.mk script).toJson }

/-- Runs a script. -/
def run (script : String) : Envelope := request .run script

/-- Checks a script without running it. -/
def compile (script : String) : Envelope := request .compile script

/-- An inbound envelope as the engine means it. -/
inductive Event where
  | log (entry : OutputEntry)
  | result (entry : OutputEntry)
  | output (entry : OutputEntry)
  | runFinished (response : RunResponse)
  | compileFinished (response : RunResponse)
  | other (envelope : Envelope)
  deriving DecidableEq

namespace Event

/-- The event of an envelope; an error if its kind is known and its body is not
    of that kind's shape. -/
def ofEnvelope (e : Envelope) : Except ShapeError Event :=
  let entry := (OutputEntry.schema.read e.data).map OutputEntry.ofValues
  let response := (RunResponse.schema.read e.data).map RunResponse.ofValues
  match Kind.ofName? e.kind with
  | some .log => entry.map log
  | some .result => entry.map result
  | some .output => entry.map output
  | some .run => response.map runFinished
  | some .compile => response.map compileFinished
  | none => .ok (other e)

end Event

end Engine

end PartyLine
