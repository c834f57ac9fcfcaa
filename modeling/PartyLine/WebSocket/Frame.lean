import PartyLine.WebSocket.Failure

/-!
# WebSocket frames

The unit in which bytes travel between the ends of a WebSocket connection: two
bytes of header, a length of up to eight bytes, perhaps a mask, and a payload.

* `WebSocket.Frame.read`: the frame in front of some bytes;
* `WebSocket.Frame.encode`: the bytes of a frame.
-/

namespace PartyLine

namespace WebSocket

/-- What a frame carries: a piece of a message, or a word between the two ends. -/
inductive Opcode where
  | continuation
  | text
  | binary
  | close
  | ping
  | pong
  deriving DecidableEq

namespace Opcode

/-- The number of an opcode. -/
def code : Opcode → Nat
  | continuation => 0
  | text => 1
  | binary => 2
  | close => 8
  | ping => 9
  | pong => 10

/-- The opcode of a number. -/
def ofCode? (n : Nat) : Option Opcode :=
  [continuation, text, binary, close, ping, pong].find? (·.code == n)

/-- Whether the frame is a word between the two ends. -/
def isControl : Opcode → Bool
  | close | ping | pong => true
  | _ => false

end Opcode

/-- One frame. -/
structure Frame where
  opcode : Opcode
  payload : List UInt8 := []
  /-- Whether a message ends with the frame. -/
  final : Bool := true
  /-- Whether a bit is set that has no meaning. -/
  reserved : Bool := false
  masked : Bool := false
  deriving DecidableEq

namespace Frame

/-- What stands in front of some bytes. -/
inductive Reading where
  /-- Less than a frame. -/
  | incomplete
  | failed (error : Failure)
  | frame (f : Frame) (rest : List UInt8)
  deriving DecidableEq

/-- The natural of some bytes, the greatest first. -/
def natural (bytes : List UInt8) : Nat := bytes.foldl (fun n b => 256 * n + b.toNat) 0

/-- So many bytes in front of others, and the rest. -/
def split? (count : Nat) (bytes : List UInt8) : Option (List UInt8 × List UInt8) :=
  let front := bytes.take count
  if front.length = count then some (front, bytes.drop count) else none

/-- The number of bytes that a length takes beyond its first seven bits. -/
def lengthSize (short : Nat) : Nat := if short = 126 then 2 else if short = 127 then 8 else 0

/-- The frame in front of some bytes. The payload may not exceed the limit, which
    is looked at before the payload is there. -/
def read (limit : Nat) (bytes : List UInt8) : Reading :=
  match bytes with
  | first :: second :: bytes =>
      let short := second.toNat % 128
      let masked := 128 ≤ second.toNat
      match split? (lengthSize short) bytes with
      | none => .incomplete
      | some (long, bytes) =>
          match split? (if masked then 4 else 0) bytes with
          | none => .incomplete
          | some (_, bytes) =>
              let length := if long.isEmpty then short else natural long
              match Opcode.ofCode? (first.toNat % 16) with
              | none => .failed (.protocol (.invalidOpcode (first.toNat % 16)))
              | some opcode =>
                  if limit < length then .failed (.capacity (.messageTooLong length limit))
                  else
                    match split? length bytes with
                    | none => .incomplete
                    | some (payload, rest) =>
                        let reserved := first.toNat / 16 % 8 != 0
                        let final := 128 ≤ first.toNat
                        .frame { opcode, payload, final, reserved, masked } rest
  | _ => .incomplete

/-- So many bytes of a natural, the greatest first. -/
def bytesOf : Nat → Nat → List UInt8
  | 0, _ => []
  | count + 1, n => bytesOf count (n / 256) ++ [UInt8.ofNat n]

/-- The bytes of a frame without mask. -/
def encode (f : Frame) : List UInt8 :=
  let n := f.payload.length
  let first := UInt8.ofNat (f.opcode.code + if f.final then 128 else 0)
  let length :=
    if n < 126 then [UInt8.ofNat n]
    else if n < 0x10000 then 126 :: bytesOf 2 n
    else 127 :: bytesOf 8 n
  first :: length ++ f.payload

/-- The frame that closes a connection, with a code and a reason at will. -/
def close (status : Option (Nat × List UInt8)) : Frame where
  opcode := .close
  payload := status.elim [] fun (code, reason) => bytesOf 2 code ++ reason

end Frame

end WebSocket

end PartyLine
