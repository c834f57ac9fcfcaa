import PartyLine.Transport.Address
import PartyLine.Transport.Error

/-!
# Failures of WebSocket connections

What can go wrong between the two ends of a WebSocket connection, and the
transport error that it counts as (`WebSocket.Failure.toTransport`).
-/

namespace PartyLine

namespace WebSocket

/-- A size that exceeds what this end is ready for. -/
inductive CapacityError where
  | tooManyHeaders
  | messageTooLong (size limit : Nat)
  deriving DecidableEq

/-- The wording of a capacity error. -/
def CapacityError.message : CapacityError → String
  | tooManyHeaders => "Too many headers"
  | messageTooLong size limit =>
      "Message too long: " ++ toString size ++ " > " ++ toString limit

/-- A type of data frames. -/
inductive DataKind where
  | continuation
  | text
  | binary
  | reserved (code : Nat)
  deriving DecidableEq

/-- The label of a type of data frames. -/
def DataKind.label : DataKind → String
  | continuation => "CONTINUE"
  | text => "TEXT"
  | binary => "BINARY"
  | reserved code => "RESERVED_DATA_" ++ toString code

/-- A breach of the WebSocket protocol. -/
inductive ProtocolError where
  | wrongHttpMethod
  | wrongHttpVersion
  | missingConnectionUpgradeHeader
  | missingUpgradeWebSocketHeader
  | missingVersionHeader
  | missingKey
  | acceptKeyMismatch
  | junkAfterRequest
  | customResponseSuccessful
  | handshakeIncomplete
  | http (detail : String)
  | sendAfterClosing
  | receivedAfterClosing
  | nonZeroReservedBits
  | unmaskedFrameFromClient
  | maskedFrameFromServer
  | fragmentedControlFrame
  | controlFrameTooBig
  | unknownControlFrameType (code : Nat)
  | unknownDataFrameType (code : Nat)
  | unexpectedContinueFrame
  | expectedFragment (kind : DataKind)
  | resetWithoutClosingHandshake
  | invalidOpcode (code : Nat)
  | invalidCloseSequence
  deriving DecidableEq

/-- The wording of a breach. -/
def ProtocolError.message : ProtocolError → String
  | wrongHttpMethod => "Unsupported HTTP method used - only GET is allowed"
  | wrongHttpVersion => "HTTP version must be 1.1 or higher"
  | missingConnectionUpgradeHeader => "No \"Connection: upgrade\" header"
  | missingUpgradeWebSocketHeader => "No \"Upgrade: websocket\" header"
  | missingVersionHeader => "No \"Sec-WebSocket-Version: 13\" header"
  | missingKey => "No \"Sec-WebSocket-Key\" header"
  | acceptKeyMismatch => "Key mismatch in \"Sec-WebSocket-Accept\" header"
  | junkAfterRequest => "Junk after client request"
  | customResponseSuccessful => "Custom response must not be successful"
  | handshakeIncomplete => "Handshake not finished"
  | http detail => "httparse error: " ++ detail
  | sendAfterClosing => "Sending after closing is not allowed"
  | receivedAfterClosing => "Remote sent after having closed"
  | nonZeroReservedBits => "Reserved bits are non-zero"
  | unmaskedFrameFromClient => "Received an unmasked frame from client"
  | maskedFrameFromServer => "Received a masked frame from server"
  | fragmentedControlFrame => "Fragmented control frame"
  | controlFrameTooBig => "Control frame too big (payload must be 125 bytes or less)"
  | unknownControlFrameType code => "Unknown control frame type: " ++ toString code
  | unknownDataFrameType code => "Unknown data frame type: " ++ toString code
  | unexpectedContinueFrame => "Continue frame but nothing to continue"
  | expectedFragment kind => "While waiting for more fragments received: " ++ kind.label
  | resetWithoutClosingHandshake => "Connection reset without closing handshake"
  | invalidOpcode code => "Encountered invalid opcode: " ++ toString code
  | invalidCloseSequence => "Invalid close sequence"

/-- A URL that no WebSocket connection can be made to. -/
inductive UrlError where
  | tlsNotEnabled
  | noHostName
  | unableToConnect (url : String)
  | unsupportedScheme
  | emptyHostName
  | noPathOrQuery
  deriving DecidableEq

/-- The wording of an error of the URL. -/
def UrlError.message : UrlError → String
  | tlsNotEnabled => "TLS support not compiled in"
  | noHostName => "No host name in the URL"
  | unableToConnect url => "Unable to connect to " ++ url
  | unsupportedScheme => "URL scheme not supported"
  | emptyHostName => "URL contains empty host name"
  | noPathOrQuery => "No path/query in URL"

/-- The standard reasons of HTTP status codes. -/
def statusReasons : List (Nat × String) := [
  (100, "Continue"), (101, "Switching Protocols"), (102, "Processing"), (103, "Early Hints"),
  (200, "OK"), (201, "Created"), (202, "Accepted"), (203, "Non Authoritative Information"),
  (204, "No Content"), (205, "Reset Content"), (206, "Partial Content"), (207, "Multi-Status"),
  (208, "Already Reported"), (226, "IM Used"), (300, "Multiple Choices"),
  (301, "Moved Permanently"), (302, "Found"), (303, "See Other"), (304, "Not Modified"),
  (305, "Use Proxy"), (307, "Temporary Redirect"), (308, "Permanent Redirect"),
  (400, "Bad Request"), (401, "Unauthorized"), (402, "Payment Required"), (403, "Forbidden"),
  (404, "Not Found"), (405, "Method Not Allowed"), (406, "Not Acceptable"),
  (407, "Proxy Authentication Required"), (408, "Request Timeout"), (409, "Conflict"),
  (410, "Gone"), (411, "Length Required"), (412, "Precondition Failed"),
  (413, "Payload Too Large"), (414, "URI Too Long"), (415, "Unsupported Media Type"),
  (416, "Range Not Satisfiable"), (417, "Expectation Failed"), (418, "I\x27m a teapot"),
  (421, "Misdirected Request"), (422, "Unprocessable Entity"), (423, "Locked"),
  (424, "Failed Dependency"), (425, "Too Early"), (426, "Upgrade Required"),
  (428, "Precondition Required"), (429, "Too Many Requests"),
  (431, "Request Header Fields Too Large"), (451, "Unavailable For Legal Reasons"),
  (500, "Internal Server Error"), (501, "Not Implemented"), (502, "Bad Gateway"),
  (503, "Service Unavailable"), (504, "Gateway Timeout"), (505, "HTTP Version Not Supported"),
  (506, "Variant Also Negotiates"), (507, "Insufficient Storage"), (508, "Loop Detected"),
  (510, "Not Extended"), (511, "Network Authentication Required")]

/-- A status code with its reason. -/
def statusText (code : Nat) : String :=
  toString code ++ " " ++ ((statusReasons.lookup code).getD "<unknown status code>")

/-- A failure of a WebSocket connection. -/
inductive Failure where
  | connectionClosed
  | alreadyClosed
  | io (error : IoError)
  | invalidDnsName
  | capacity (error : CapacityError)
  | protocol (error : ProtocolError)
  | writeBufferFull
  | utf8
  | attackAttempt
  | url (error : UrlError)
  | http (status : Nat)
  | httpFormat (fault : Address.Fault)
  /-- The status of an answer is no number that HTTP has. -/
  | invalidStatus
  deriving DecidableEq

/-- The transport error that a failure counts as. -/
def Failure.toTransport : Failure → TransportError
  | connectionClosed => .notConnected "Connection closed"
  | alreadyClosed => .notConnected "Connection already closed"
  | io error => .ofIo error
  | invalidDnsName => .tls "Invalid DNS name"
  | capacity error => .receiveFailed ("Capacity error: " ++ error.message)
  | protocol error => .webSocket ("Protocol violation: " ++ error.message)
  | writeBufferFull => .sendFailed "Write buffer full"
  | utf8 => .receiveFailed "Invalid UTF-8 received"
  | attackAttempt => .other "Attack attempt detected"
  | url error => .invalidUrl error.message
  | http status => .connectionFailed ("HTTP error during handshake: Status " ++ statusText status)
  | httpFormat fault => .connectionFailed ("HTTP format error: " ++ fault.message)
  | invalidStatus => .connectionFailed "HTTP format error: invalid status code"

/-- Where a URL leads, or why no connection to it is even tried. -/
def locate (url : String) : Except Failure (Address × Nat) := do
  let a ← (Address.parse url).mapError .httpFormat
  if a.authority.isEmpty then throw (.url .noHostName)
  match a.port? with
  | some port => return (a, port)
  | none => throw (.url .unsupportedScheme)

end WebSocket

end PartyLine
