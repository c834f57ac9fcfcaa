import PartyLine.Text.Utf8
import PartyLine.WebSocket.Failure

/-!
# The opening handshake

A WebSocket connection starts with an HTTP request that the peer answers. The
head of the answer is read as far as HTTP goes, and then it must agree to the
change of protocol.

* `WebSocket.Head.read`: the head of an answer in front of some bytes;
* `WebSocket.Head.verify`: whether it agrees.
-/

namespace PartyLine

namespace WebSocket

/-- The head of an answer: its HTTP version, its status and its headers. -/
structure Head where
  /-- The number after `HTTP/1.`. -/
  version : Nat
  status : Nat
  headers : List (String × List UInt8)
  deriving DecidableEq

namespace Head

/-- What is wrong with a head. -/
inductive Fault where
  /-- Nothing yet: it goes on. -/
  | incomplete
  | headerName
  | headerValue
  | newLine
  | status
  | version
  | tooManyHeaders
  deriving DecidableEq

/-- The failure that a fault counts as once nothing more comes. -/
def Fault.failure : Fault → Failure
  | incomplete => .protocol .handshakeIncomplete
  | headerName => .protocol (.http "invalid header name")
  | headerValue => .protocol (.http "invalid header value")
  | newLine => .protocol (.http "invalid new line")
  | status => .protocol (.http "invalid response status")
  | version => .protocol (.http "invalid HTTP version")
  | tooManyHeaders => .capacity .tooManyHeaders

/-- A byte with an ASCII character. -/
def byte (c : Char) : UInt8 := UInt8.ofNat c.toNat

/-- The rest after a line feed that has to follow a carriage return. -/
def lineFeed (fault : Fault) : List UInt8 → Except Fault (List UInt8)
  | [] => .error .incomplete
  | b :: s => if b = 10 then .ok s else .error fault

/-- The bytes after the empty lines in front. -/
def skipEmptyLines : List UInt8 → Except Fault (List UInt8)
  | [] => .error .incomplete
  | 13 :: 10 :: s => skipEmptyLines s
  | 13 :: [] => .error .incomplete
  | 13 :: _ => .error .newLine
  | 10 :: s => skipEmptyLines s
  | s => .ok s

/-- The bytes after the letters of a word. -/
def expect (fault : Fault) : List Char → List UInt8 → Except Fault (List UInt8)
  | [], s => .ok s
  | _ :: _, [] => .error .incomplete
  | c :: cs, b :: s => if b = byte c then expect fault cs s else .error fault

/-- The HTTP version. -/
def readVersion (s : List UInt8) : Except Fault (Nat × List UInt8) := do
  match ← expect .version "HTTP/1.".toList s with
  | [] => throw .incomplete
  | 48 :: s => return (0, s)
  | 49 :: s => return (1, s)
  | _ => throw .version

/-- Some digits. -/
def readDigits : Nat → Nat → List UInt8 → Except Fault (Nat × List UInt8)
  | 0, n, s => .ok (n, s)
  | _ + 1, _, [] => .error .incomplete
  | count + 1, n, b :: s =>
      if 48 ≤ b ∧ b ≤ 57 then readDigits count (10 * n + (b.toNat - 48)) s else .error .status

/-- The bytes after the reason of a status. -/
def skipReason : List UInt8 → Except Fault (List UInt8)
  | [] => .error .incomplete
  | b :: s =>
      if b = 13 then lineFeed .status s
      else if b = 10 then .ok s
      else if b = 9 ∨ 0x80 ≤ b ∨ (32 ≤ b ∧ b ≤ 126) then skipReason s
      else .error .status

/-- The bytes after the status: a reason, or the end of the line. -/
def skipStatusLine : List UInt8 → Except Fault (List UInt8)
  | [] => .error .incomplete
  | 32 :: s => skipReason s
  | 13 :: s => lineFeed .status s
  | 10 :: s => .ok s
  | _ => .error .status

/-- The bytes of names. -/
def isNameByte (b : UInt8) : Bool :=
  let c := Char.ofNat b.toNat
  b < 0x80 && (c.isAlphanum || "!#$%&\x27*+-.^_\x60|~".toList.contains c)

/-- The bytes of values. -/
def isValueByte (b : UInt8) : Bool := b == 9 || (32 ≤ b && b != 127)

/-- A name and the bytes after its colon. -/
def readName (s : List UInt8) : Except Fault (String × List UInt8) :=
  let name := s.takeWhile isNameByte
  match s.dropWhile isNameByte with
  | [] => .error .incomplete
  | b :: rest =>
      if name.isEmpty ∨ b ≠ byte ':' then .error .headerName
      else .ok (String.ofList (name.map fun b => Char.ofNat b.toNat), rest)

/-- Blanks around values. -/
def isBlank (b : UInt8) : Bool := b == 9 || b == 32

/-- A value without the blanks around it, and the bytes after its line. -/
def readValue (s : List UInt8) : Except Fault (List UInt8 × List UInt8) := do
  let s := s.dropWhile isBlank
  let value := ((s.takeWhile isValueByte).reverse.dropWhile isBlank).reverse
  match s.dropWhile isValueByte with
  | [] => throw .incomplete
  | 13 :: rest => return (value, ← lineFeed .headerValue rest)
  | 10 :: rest => return (value, rest)
  | _ => throw .headerValue

/-- The headers up to the empty line after them, at most 124 of them. -/
def readHeaders : Nat → List UInt8 → Except Fault (List (String × List UInt8) × List UInt8)
  | _, [] => .error .incomplete
  | _, 10 :: s => .ok ([], s)
  | _, 13 :: s => do return ([], ← lineFeed .newLine s)
  | room, s => do
      let (name, s) ← readName s
      let (value, s) ← readValue s
      match room with
      | 0 => throw .tooManyHeaders
      | room + 1 =>
          let (headers, s) ← readHeaders room s
          return ((name, value) :: headers, s)

/-- The head in front of some bytes, and the bytes after it. -/
def read (s : List UInt8) : Except Fault (Head × List UInt8) := do
  let s ← skipEmptyLines s
  let (version, s) ← readVersion s
  let s ← expect .version [' '] s
  let (status, s) ← readDigits 3 0 s
  let s ← skipStatusLine s
  let (headers, s) ← readHeaders 124 s
  return ({ version, status, headers }, s)

/-- The value of the first header of that name, in any case. -/
def header? (h : Head) (name : String) : Option (List UInt8) :=
  let lower (s : String) : List Char := s.toList.map Char.toLower
  (h.headers.find? fun entry => lower entry.1 == lower name).map (·.2)

/-- Whether a header has that value, in any case. -/
def hasHeader (h : Head) (name value : String) : Bool :=
  (h.header? name).elim false fun v =>
    v.map (fun b => (Char.ofNat b.toNat).toLower) == value.toList.map Char.toLower

/-- Checks that a head agrees to the change of protocol, and with which key. -/
def verify (h : Head) (key : List UInt8) : Except Failure Unit := do
  if h.version < 1 then throw (.protocol .wrongHttpVersion)
  if h.status < 100 then throw .invalidStatus
  if h.status ≠ 101 then throw (.http h.status)
  if !h.hasHeader "Upgrade" "websocket" then throw (.protocol .missingUpgradeWebSocketHeader)
  if !h.hasHeader "Connection" "Upgrade" then throw (.protocol .missingConnectionUpgradeHeader)
  if h.header? "Sec-WebSocket-Accept" ≠ some key then throw (.protocol .acceptKeyMismatch)

end Head

/-- The most bytes that a head may take. -/
def maxHeadSize : Nat := 65536

/-- The bytes that follow the head of an answer, if it agrees with that key. -/
def shakeHands (key answer : List UInt8) : Except Failure (List UInt8) :=
  match Head.read (answer.take maxHeadSize) with
  | .ok (h, rest) => do
      h.verify key
      return rest ++ answer.drop maxHeadSize
  | .error .incomplete =>
      if maxHeadSize < answer.length then .error .attackAttempt
      else .error Head.Fault.incomplete.failure
  | .error f => .error f.failure

end WebSocket

end PartyLine
