/-!
# Connection states

The life of one physical connection: idle until its attempt starts, connecting
until the transport is ready, open until it ends, then closed or errored for
good. `ConnectionState.next` says which signal is a valid transition from where.
-/

namespace PartyLine

/-- Where a connection is in its life. -/
inductive ConnectionState where
  | idle
  | connecting
  | opened
  | closed
  | errored
  deriving DecidableEq, Inhabited

/-- What can move a connection from one state to another. -/
inductive Signal where
  /-- The attempt started. -/
  | initiate
  /-- The transport is ready. -/
  | opened
  /-- The transport failed. -/
  | failed
  /-- The transport shut down cleanly. -/
  | closed
  deriving DecidableEq

namespace ConnectionState

/-- The states that accept nothing more. -/
def isTerminal : ConnectionState → Bool
  | closed | errored => true
  | _ => false

/-- Whether frames pass. -/
def isOpen (s : ConnectionState) : Bool := s == opened

/-- The state after a signal; none if the signal is no valid transition. -/
def next : ConnectionState → Signal → Option ConnectionState
  | closed, _ | errored, _ => none
  | idle, .initiate => some connecting
  | connecting, .opened => some opened
  | _, .failed => some errored
  | connecting, .closed | opened, .closed => some closed
  | _, _ => none

/-- The state after a signal, which a refused signal leaves as it is. -/
def advance (s : ConnectionState) (signal : Signal) : ConnectionState :=
  (s.next signal).getD s

/-- The name of a state in text. -/
def name : ConnectionState → String
  | idle => "idle"
  | connecting => "connecting"
  | opened => "open"
  | closed => "closed"
  | errored => "errored"

/-- The name of a state as a label. -/
def label : ConnectionState → String
  | idle => "Idle"
  | connecting => "Connecting"
  | opened => "Open"
  | closed => "Closed"
  | errored => "Errored"

/-- A terminal state accepts no signal. -/
theorem next_of_isTerminal {s : ConnectionState} (h : s.isTerminal) (signal : Signal) :
    s.next signal = none := by
  cases s <;> simp_all [isTerminal, next]

end ConnectionState

end PartyLine
