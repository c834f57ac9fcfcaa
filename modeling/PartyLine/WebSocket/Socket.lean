import PartyLine.Settings
import PartyLine.Text.Utf8
import PartyLine.WebSocket.Frame

/-!
# Sockets

This end of a WebSocket connection after its handshake: the frames that arrive
are put together into messages, pings are answered, and closing is agreed on.
Answers wait until something is read or written next.

A message may come in several frames, and control frames between these. What is kept is the message
so far, the one answer that waits, and how far closing has gone, which either end may begin. The
limits of the options are for a frame as its head is read and for a message as it grows. After a
failure the socket yields nothing but the end.

* `WebSocket.Socket.next?`: the next thing that the socket yields;
* `WebSocket.Socket.write`, `WebSocket.Socket.close`: what is sent.
-/

namespace PartyLine

namespace WebSocket

/-- What a socket yields, one thing at a time. -/
inductive Item where
  | text (value : String)
  | binary (value : List UInt8)
  | ping (value : List UInt8)
  | pong (value : List UInt8)
  /-- A frame as it is. -/
  | raw (frame : Frame)
  | close
  | failed (error : Failure)
  /-- Nothing more comes. -/
  | ended
  deriving DecidableEq

/-- How far closing has come. -/
inductive Phase where
  | active
  | closedByUs
  | closedByPeer
  | acknowledged
  /-- The link is gone. -/
  | terminated
  deriving DecidableEq

/-- A message whose last frame has not come. -/
structure Draft where
  isText : Bool
  bytes : List UInt8
  deriving DecidableEq

/-- The message of a draft that is complete. -/
def Draft.message (d : Draft) : Except Failure Item :=
  if d.isText then
    match Text.Utf8.ofBytes? d.bytes with
    | some text => .ok (.text text)
    | none => .error .utf8
  else .ok (.binary d.bytes)

/-- A draft with more bytes, which may neither be too many nor spoil a text. -/
def Draft.extend (d : Draft) (limit : Nat) (bytes : List UInt8) : Except Failure Draft :=
  let d' : Draft := { d with bytes := d.bytes ++ bytes }
  if limit < d'.bytes.length then .error (.capacity (.messageTooLong d'.bytes.length limit))
  else if d.isText ∧ Text.Utf8.decode d'.bytes = .invalid then .error .utf8
  else .ok d'

/-- This end of a connection. -/
structure Socket where
  maxMessageSize : Nat
  maxFrameSize : Nat
  phase : Phase := .active
  draft : Option Draft := none
  /-- The answer that is still to be sent. -/
  answer : Option Frame := none
  /-- What has come and is not yet read. -/
  inbound : List UInt8 := []
  /-- Whether the peer sends no more. It also stops once it is sent a close. -/
  severed : Bool := false
  /-- The frames sent. -/
  written : List Frame := []
  /-- Whether the socket has yielded all it ever will. -/
  exhausted : Bool := false

namespace Socket

/-- The socket of options; limits that are not given are the usual ones. -/
def ofOptions (o : WebSocketOptions) (inbound : List UInt8) (severed : Bool) : Socket where
  maxMessageSize := o.maxMessageSize.getD 0x4000000
  maxFrameSize := o.maxFrameSize.getD 0x1000000
  inbound := inbound
  severed := severed

/-- Whether nothing more comes. -/
def isSevered (s : Socket) : Bool := s.severed || s.written.any (·.opcode == .close)

/-- Sends the answer that waits. -/
def flush (s : Socket) : Socket :=
  { s with answer := none, written := s.written ++ s.answer.toList }

/-- Keeps an answer to be sent; a later one takes the place of a pong. -/
def prepare (s : Socket) (f : Frame) : Socket :=
  if s.answer.all (·.opcode == .pong) then { s with answer := some f } else s

/-- The codes that may be given for closing. -/
def isAllowedCode (code : Nat) : Bool :=
  [1000, 1001, 1002, 1003, 1007, 1008, 1009, 1010, 1011, 1012, 1013].contains code ||
    (3000 ≤ code && code ≤ 4999)

/-- The peer closes, or agrees to it. Its code is given back unless it may not be. -/
def acceptClose (s : Socket) (status : Option (Nat × List UInt8)) : Option Item × Socket :=
  match s.phase with
  | .active =>
      let status := status.map fun (code, reason) =>
        if isAllowedCode code then (code, reason)
        else (1002, Text.Utf8.toBytes "Protocol violation")
      (some .close, { s with phase := .closedByPeer }.prepare (.close status))
  | .closedByUs => (some .close, { s with phase := .acknowledged })
  | _ => (none, s)

/-- The code and the reason of a close. -/
def status (payload : List UInt8) : Except Failure (Option (Nat × List UInt8)) :=
  match payload with
  | [] => .ok none
  | [_] => .error (.protocol .invalidCloseSequence)
  | a :: b :: reason =>
      if (Text.Utf8.ofBytes? reason).isSome then .ok (some (Frame.natural [a, b], reason))
      else .error .utf8

/-- Adds a frame to a draft, which it may complete. -/
def collect (s : Socket) (d : Draft) (f : Frame) : Except Failure (Option Item × Socket) := do
  let d ← d.extend s.maxMessageSize f.payload
  if f.final then return (some (← d.message), { s with draft := none })
  else return (none, { s with draft := some d })

/-- Whether frames of the peer can still be read. -/
def canRead (s : Socket) : Bool := s.phase == .active || s.phase == .closedByUs

/-- What a frame from the peer comes to; nothing if it is one of several. -/
def accept (s : Socket) (f : Frame) : Except Failure (Option Item × Socket) := do
  if !s.canRead then throw (.protocol .receivedAfterClosing)
  if f.reserved then throw (.protocol .nonZeroReservedBits)
  if f.masked then throw (.protocol .maskedFrameFromServer)
  if f.opcode.isControl ∧ !f.final then throw (.protocol .fragmentedControlFrame)
  if f.opcode.isControl ∧ 125 < f.payload.length then throw (.protocol .controlFrameTooBig)
  match f.opcode, s.draft with
  | .close, _ => return s.acceptClose (← status f.payload)
  | .ping, _ =>
      let answered := if s.phase = .active then s.prepare { opcode := .pong, payload := f.payload }
        else s
      return (some (.ping f.payload), answered)
  | .pong, _ => return (some (.pong f.payload), s)
  | .continuation, some d => s.collect d f
  | .continuation, none => throw (.protocol .unexpectedContinueFrame)
  | .text, some _ => throw (.protocol (.expectedFragment .text))
  | .binary, some _ => throw (.protocol (.expectedFragment .binary))
  | .text, none => s.collect { isText := true, bytes := [] } f
  | .binary, none => s.collect { isText := false, bytes := [] } f

/-- The end of the link, which is in order only after closing. -/
def hangUp (s : Socket) : Failure × Socket :=
  let closed := s.phase = .closedByPeer ∨ s.phase = .acknowledged
  (if closed then .connectionClosed else .protocol .resetWithoutClosingHandshake,
    { s with phase := .terminated })

/-- Reads frames until they come to something, at most so many; nothing while
    the next frame has not come. -/
def read? : Nat → Socket → Option (Except Failure Item × Socket)
  | 0, _ => none
  | fuel + 1, s =>
      let s := s.flush
      match Frame.read s.maxFrameSize s.inbound with
      | .incomplete =>
          if s.isSevered then
            let (e, s) := s.hangUp
            some (.error e, s)
          else none
      | .failed e => some (.error e, s)
      | .frame f rest =>
          match { s with inbound := rest }.accept f with
          | .error e => some (.error e, { s with inbound := rest })
          | .ok (some item, s) => some (.ok item, s)
          | .ok (none, s) => read? fuel s

/-- The next thing that the socket yields; nothing while that has not come. A
    failure is the last thing, and a closing in order is no failure. -/
def next? (s : Socket) : Option (Item × Socket) :=
  if s.exhausted then some (.ended, s)
  else if s.phase = .terminated then some (.ended, { s with exhausted := true })
  else
    (read? (s.inbound.length + 1) s).map fun
      | (.ok item, s) => (item, s)
      | (.error .connectionClosed, s) => (.ended, { s with exhausted := true })
      | (.error e, s) => (.failed e, { s with exhausted := true })

/-- Sends a frame and then the answer that waits; only before closing. -/
def write (s : Socket) (f : Frame) : Except Failure Socket :=
  match s.phase with
  | .terminated => .error .alreadyClosed
  | .active => .ok { s with written := s.written ++ [f] }.flush
  | _ => .error (.protocol .sendAfterClosing)

/-- Closes, unless that has begun; the answer that waits is sent too. -/
def close (s : Socket) : Socket :=
  match s.phase with
  | .terminated => s
  | .active => { s with phase := .closedByUs, written := s.written ++ [Frame.close none] }.flush
  | _ => s.flush

end Socket

end WebSocket

end PartyLine
