/-!
# Transport errors

Why a physical connection fails, in the terms every transport shares. A channel
hands one such error to all of its subscribers.
-/

namespace PartyLine

/-- An error of the physical connection. -/
inductive TransportError where
  | connectionFailed (detail : String)
  | notConnected (detail : String)
  | sendFailed (detail : String)
  | receiveFailed (detail : String)
  | timeout
  | invalidUrl (detail : String)
  | unsupportedScheme (url : String)
  | io (detail : String)
  | webSocket (detail : String)
  | tls (detail : String)
  | other (detail : String)
  deriving DecidableEq, Inhabited

/-- The wording of a transport error. -/
def TransportError.message : TransportError → String
  | connectionFailed detail => "Connection failed: " ++ detail
  | notConnected detail => "Not connected: " ++ detail
  | sendFailed detail => "Send operation failed: " ++ detail
  | receiveFailed detail => "Receive operation failed: " ++ detail
  | timeout => "Connection timed out"
  | invalidUrl detail => "Invalid URL or connection parameters: " ++ detail
  | unsupportedScheme url => "Unsupported URL scheme: " ++ url
  | io detail => "Underlying I/O error: " ++ detail
  | webSocket detail => "WebSocket protocol error: " ++ detail
  | tls detail => "TLS error: " ++ detail
  | other detail => "Unknown transport error: " ++ detail

/-- The kinds of failed input and output that have a wording of their own. -/
inductive IoErrorKind where
  | notFound
  | connectionRefused
  | connectionReset
  | brokenPipe
  | timedOut
  | unexpectedEof
  | other
  deriving DecidableEq

/-- The wording of a kind. -/
def IoErrorKind.description : IoErrorKind → String
  | notFound => "entity not found"
  | connectionRefused => "connection refused"
  | connectionReset => "connection reset"
  | brokenPipe => "broken pipe"
  | timedOut => "timed out"
  | unexpectedEof => "unexpected end of file"
  | other => "other error"

/-- A failure of input or output: its own text if it has one, else that of its kind. -/
structure IoError where
  kind : IoErrorKind
  detail : Option String := none
  deriving DecidableEq

/-- The wording of a failure of input or output. -/
def IoError.message (e : IoError) : String := e.detail.getD e.kind.description

/-- A failure of input or output as a transport error. -/
def TransportError.ofIo (e : IoError) : TransportError := io e.message

end PartyLine
