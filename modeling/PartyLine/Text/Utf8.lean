/-!
# UTF-8

The text that bytes encode. Bytes that come in pieces may end inside a
character, which is not yet wrong.

* `Text.Utf8.decode`: the characters of some bytes;
* `Text.Utf8.ofBytes?`: the text of bytes that are all of it.
-/

namespace PartyLine

namespace Text

namespace Utf8

/-- What some bytes encode. -/
inductive Decoded where
  | text (chars : List Char)
  /-- Characters and then the start of another one. -/
  | unfinished (chars : List Char)
  | invalid
  deriving DecidableEq

/-- The result with a character in front. -/
def Decoded.cons (c : Char) : Decoded → Decoded
  | text chars => text (c :: chars)
  | unfinished chars => unfinished (c :: chars)
  | invalid => invalid

/-- Whether a byte lies between two others. -/
def between (low high b : UInt8) : Bool := low ≤ b && b ≤ high

/-- Whether a byte continues a character. -/
def isTail (b : UInt8) : Bool := between 0x80 0xbf b

/-- Whether the second byte of a character of three or four bytes fits the
    first; it is narrower where other values have a shorter form or none. -/
def isSecond (first second : UInt8) : Bool :=
  if first == 0xe0 then between 0xa0 0xbf second
  else if first == 0xed then between 0x80 0x9f second
  else if first == 0xf0 then between 0x90 0xbf second
  else if first == 0xf4 then between 0x80 0x8f second
  else isTail second

/-- The character of the bits of some bytes. -/
def compose (lead : Nat) (tails : List UInt8) : Char :=
  Char.ofNat (tails.foldl (fun n b => 64 * n + b.toNat % 64) lead)

/-- The characters of some bytes. -/
def decode : List UInt8 → Decoded
  | [] => .text []
  | a :: s =>
      if a < 0x80 then (decode s).cons (Char.ofNat a.toNat)
      else if between 0xc2 0xdf a then
        match s with
        | [] => .unfinished []
        | b :: s => if isTail b then (decode s).cons (compose (a.toNat % 32) [b]) else .invalid
      else if between 0xe0 0xef a then
        match s with
        | [] => .unfinished []
        | [b] => if isSecond a b then .unfinished [] else .invalid
        | b :: c :: s =>
            if isSecond a b ∧ isTail c then (decode s).cons (compose (a.toNat % 16) [b, c])
            else .invalid
      else if between 0xf0 0xf4 a then
        match s with
        | [] => .unfinished []
        | [b] => if isSecond a b then .unfinished [] else .invalid
        | [b, c] => if isSecond a b ∧ isTail c then .unfinished [] else .invalid
        | b :: c :: d :: s =>
            if isSecond a b ∧ isTail c ∧ isTail d then
              (decode s).cons (compose (a.toNat % 8) [b, c, d])
            else .invalid
      else .invalid

/-- The text of bytes that are all of it. -/
def ofBytes? (bytes : List UInt8) : Option String :=
  match decode bytes with
  | .text chars => some (String.ofList chars)
  | _ => none

/-- The bytes of a text. -/
def toBytes (s : String) : List UInt8 := s.toUTF8.toList

end Utf8

end Text

end PartyLine
