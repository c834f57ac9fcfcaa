import PartyLine.Json
import PartyLine.Json.Problem

/-!
# Reading documents

A reader takes the characters that are left and gives back what it read and
what is then left, or the first fault. It is exact about the grammar: blanks
are the four of JSON, nothing may follow the document but blanks, and 127 levels
of arrays and objects are the limit.

Numbers without fraction and exponent that fit 64 bits are integers; `-0` and
all others are doubles. A double is read in two roundings: the digits, as far as
they fit 64 bits, become a double, which is then multiplied or divided by a
power of ten.

* `Json.Reader.value`: one document from the front of a text;
* `Json.parse`: a whole text;
* `Payload.parse`: what a whole text means.
-/

namespace PartyLine

namespace Json

namespace Reader

/-- The outcome of reading; most readers give what they read and the rest. -/
abbrev Outcome := Except (Fault Problem)

/-- A fault met before `rest`. -/
def failAt {α : Type} (problem : Problem) (rest : List Char) : Outcome α :=
  .error ⟨problem, byteCount rest⟩

/-- A fault met one byte into `rest`, or at its end if it is empty. -/
def failIn {α : Type} (problem : Problem) (rest : List Char) : Outcome α :=
  .error ⟨problem, byteCount rest - 1⟩

/-- The four blanks of JSON. -/
def isBlank (c : Char) : Bool := c == ' ' || c == '\n' || c == '\t' || c == '\r'

/-- A text without its leading blanks. -/
def skipBlanks (s : List Char) : List Char := s.dropWhile isBlank

/-- The rest of a text after the letters of a word. -/
def word : List Char → List Char → Outcome (List Char)
  | [], s => .ok s
  | _ :: _, [] => failAt .endInValue []
  | w :: ws, c :: s => if c = w then word ws s else failIn .expectedWord (c :: s)

/-! ### Numbers -/

/-- The value of a decimal digit. -/
def digitValue (c : Char) : Nat := c.toNat - '0'.toNat

/-- The powers of ten that are doubles, as doubles. -/
def powerOfTen (n : Nat) : Double := (Double.ofRatio? false (Nat.pow 10 n) 1).getD default

/-- Appends digits to a significand as long as it fits 64 bits, and counts them. -/
def appendDigits (significand : Nat) : List Char → Nat × Nat
  | [] => (significand, 0)
  | c :: cs =>
      let next := significand * 10 + digitValue c
      if next < 0x10000000000000000 then
        let (s, n) := appendDigits next cs
        (s, n + 1)
      else
        (significand, 0)

/-- Multiplies or divides by one power of ten; a negative exponent that has no
    power among the doubles is first brought nearer by steps of `1e308`. None
    beyond the largest double. -/
def scale? : Nat → Double → Int → Option Double
  | fuel, f, exponent =>
      if exponent.natAbs ≤ 308 then
        if 0 ≤ exponent then f.mul? (powerOfTen exponent.natAbs)
        else f.div? (powerOfTen exponent.natAbs)
      else if f.isZero then some f
      else if 0 ≤ exponent then none
      else
        match fuel with
        | 0 => some (.zero false)
        | fuel + 1 => (f.div? (powerOfTen 308)).bind fun g => scale? fuel g (exponent + 308)

/-- The double of a significand below `2 ^ 64` and an exponent. -/
def double? (negative : Bool) (significand : Nat) (exponent : Int) : Option Double := do
  let f ← Double.ofNat? significand
  let g ← scale? 3 f exponent
  return g.withSign negative

/-- The integer of a sign and a magnitude; a double where no integer fits or
    the integer would lose its sign. -/
def integer? (negative : Bool) (magnitude : Nat) : Option Number :=
  if negative then
    if h : 0 < magnitude ∧ magnitude ≤ 0x8000000000000000 then
      some (.integer (-magnitude) (by omega))
    else (double? true magnitude 0).map .double
  else
    if h : magnitude < 0x10000000000000000 then some (.integer magnitude (by omega))
    else (double? false magnitude 0).map .double

/-- The digits of an exponent: its value, or nothing once it exceeds 31 bits,
    with the rest from that digit on. -/
def exponentDigits (exponent : Nat) : List Char → Option Nat × List Char
  | [] => (some exponent, [])
  | c :: s =>
      if c.isDigit then
        let next := exponent * 10 + digitValue c
        if next < 0x80000000 then exponentDigits next s else (none, s)
      else
        (some exponent, c :: s)

/-- A double, or the fault that it exceeds the doubles. -/
def doubleResult (x : Option Double) (rest : List Char) : Outcome (Number × List Char) :=
  match x with
  | some x => .ok (.double x, rest)
  | none => failAt .numberOutOfRange rest

/-- The part of a number after its `e`. -/
def exponentPart (negative : Bool) (significand : Nat) (exponent : Int) (s : List Char) :
    Outcome (Number × List Char) :=
  let (down, s) := match s with
    | '+' :: r => (false, r)
    | '-' :: r => (true, r)
    | s => (false, s)
  match s with
  | [] => failAt .endInValue []
  | c :: _ =>
      if c.isDigit then
        match exponentDigits 0 s with
        | (some e, r) =>
            let exponent := if down then exponent - e else exponent + e
            doubleResult (double? negative significand exponent) r
        | (none, r) =>
            if significand ≠ 0 ∧ !down then failAt .numberOutOfRange r
            else .ok (.double (.zero negative), r.dropWhile Char.isDigit)
      else
        failIn .invalidNumber s

/-- The part of a number after its point. -/
def fractionPart (negative : Bool) (significand : Nat) (exponent : Int) (s : List Char) :
    Outcome (Number × List Char) :=
  let digits := s.takeWhile Char.isDigit
  let rest := s.dropWhile Char.isDigit
  if digits.isEmpty then
    match rest with
    | [] => failAt .endInValue []
    | _ => failIn .invalidNumber rest
  else
    let (significand, used) := appendDigits significand digits
    let exponent := exponent - used
    match rest with
    | 'e' :: r | 'E' :: r => exponentPart negative significand exponent r
    | _ => doubleResult (double? negative significand exponent) rest

/-- The part of a number after its sign. -/
def number (negative : Bool) (s : List Char) : Outcome (Number × List Char) :=
  let digits := s.takeWhile Char.isDigit
  let rest := s.dropWhile Char.isDigit
  match digits with
  | [] =>
      match rest with
      | [] => failAt .endInValue []
      | _ => failIn .invalidNumber rest
  | '0' :: more@(_ :: _) => failIn .invalidNumber (more ++ rest)
  | _ =>
      let (significand, used) := appendDigits 0 digits
      let exponent : Int := digits.length - used
      match rest with
      | '.' :: r => fractionPart negative significand exponent r
      | 'e' :: r | 'E' :: r => exponentPart negative significand exponent r
      | _ =>
          if exponent = 0 then
            match integer? negative significand with
            | some n => .ok (n, rest)
            | none => failAt .numberOutOfRange rest
          else doubleResult (double? negative significand exponent) rest

/-! ### Strings -/

/-- The value of a hexadecimal digit of either case. -/
def hexValue? (c : Char) : Option Nat :=
  if c.isDigit then some (c.toNat - '0'.toNat)
  else if 'a' ≤ c ∧ c ≤ 'f' then some (c.toNat - 'a'.toNat + 10)
  else if 'A' ≤ c ∧ c ≤ 'F' then some (c.toNat - 'A'.toNat + 10)
  else none

/-- Four hexadecimal digits. Fewer than four bytes end the string. -/
def hexQuad (s : List Char) : Outcome (Nat × List Char) :=
  let digits? : Option (Nat × List Char) := match s with
    | a :: b :: c :: d :: rest => do
        let a ← hexValue? a
        let b ← hexValue? b
        let c ← hexValue? c
        let d ← hexValue? d
        return (((a * 16 + b) * 16 + c) * 16 + d, rest)
    | _ => none
  match digits? with
  | some r => .ok r
  | none =>
      if byteCount s < 4 then failAt .endInString []
      else .error ⟨.invalidEscape, byteCount s - 4⟩

/-- The units of UTF-16 that come second in a pair. -/
def isTrailing (n : Nat) : Bool := decide (0xDC00 ≤ n ∧ n ≤ 0xDFFF)

/-- The units of UTF-16 that come first in a pair. -/
def isLeading (n : Nat) : Bool := decide (0xD800 ≤ n ∧ n ≤ 0xDBFF)

/-- The character of an escape after its `\u`, which may take a second escape. -/
def unicodeEscape (s : List Char) : Outcome (Char × List Char) := do
  let (high, s) ← hexQuad s
  if isTrailing high then
    failAt .loneSurrogate s
  else if isLeading high then
    match s with
    | [] => failAt .endInString []
    | '\\' :: r =>
        match r with
        | [] => failAt .endInString []
        | 'u' :: r =>
            let (low, r) ← hexQuad r
            if isTrailing low then
              .ok (.ofNat ((high - 0xD800) * 0x400 + (low - 0xDC00) + 0x10000), r)
            else
              failAt .loneSurrogate r
        | _ => failIn .endInSurrogatePair r
    | _ => failIn .endInSurrogatePair s
  else
    .ok (.ofNat high, s)

/-- The character of an escape after its backslash. -/
def escaped : List Char → Outcome (Char × List Char)
  | [] => failAt .endInString []
  | '"' :: s => .ok ('"', s)
  | '\\' :: s => .ok ('\\', s)
  | '/' :: s => .ok ('/', s)
  | 'b' :: s => .ok ('\x08', s)
  | 'f' :: s => .ok ('\x0c', s)
  | 'n' :: s => .ok ('\n', s)
  | 'r' :: s => .ok ('\r', s)
  | 't' :: s => .ok ('\t', s)
  | 'u' :: s => unicodeEscape s
  | s => failIn .invalidEscape s

/-- The characters of a string up to its closing quote, at most `fuel` of them. -/
def stringChars : Nat → List Char → Outcome (List Char × List Char)
  | 0, s => failAt .endInString s
  | _ + 1, [] => failAt .endInString []
  | fuel + 1, c :: s =>
      if c = '"' then .ok ([], s)
      else if c = '\\' then do
        let (c, s) ← escaped s
        let (cs, s) ← stringChars fuel s
        return (c :: cs, s)
      else if c.toNat < 0x20 then failIn .controlCharacter (c :: s)
      else do
        let (cs, s) ← stringChars fuel s
        return (c :: cs, s)

/-- A string after its opening quote. -/
def string (s : List Char) : Outcome (String × List Char) := do
  let (cs, rest) ← stringChars (s.length + 1) s
  return (String.ofList cs, rest)

/-! ### Arrays and objects -/

/-- Whether an array goes on: the text at its next item, or the rest after its end. -/
def nextItem (first : Bool) (s : List Char) : Outcome (List Char ⊕ List Char) :=
  match skipBlanks s with
  | [] => failAt .endInList []
  | ']' :: rest => .ok (.inr rest)
  | c :: rest =>
      if first then .ok (.inl (c :: rest))
      else if c = ',' then
        match skipBlanks rest with
        | [] => failAt .endInValue []
        | ']' :: r => failIn .trailingComma (']' :: r)
        | s => .ok (.inl s)
      else failIn .expectedItemEnd (c :: rest)

/-- The items of an array after its bracket, at most `fuel` of them. -/
def items (item : List Char → Outcome (Json × List Char)) :
    Nat → Bool → List Char → Outcome (Items × List Char)
  | 0, _, s => failAt .endInList s
  | fuel + 1, first, s => do
      match ← nextItem first s with
      | .inr rest => return (.nil, rest)
      | .inl s =>
          let (head, s) ← item s
          let (tail, s) ← items item fuel false s
          return (.cons head tail, s)

/-- Whether an object goes on: its next key and the text after it, or the rest
    after its end. -/
def nextKey (first : Bool) (s : List Char) :
    Outcome ((String × List Char) ⊕ List Char) :=
  match skipBlanks s with
  | [] => failAt .endInObject []
  | '\x7d' :: rest => .ok (.inr rest)
  | c :: rest =>
      if first then
        if c = '"' then return .inl (← string rest) else failIn .keyNotString (c :: rest)
      else if c = ',' then
        match skipBlanks rest with
        | [] => failAt .endInValue []
        | '"' :: r => return .inl (← string r)
        | '\x7d' :: r => failIn .trailingComma ('\x7d' :: r)
        | s => failIn .keyNotString s
      else failIn .expectedMemberEnd (c :: rest)

/-- The text after the colon that follows a key. -/
def colon (s : List Char) : Outcome (List Char) :=
  match skipBlanks s with
  | [] => failAt .endInObject []
  | ':' :: rest => .ok rest
  | s => failIn .expectedColon s

/-- The members of an object after its brace, at most `fuel` of them. -/
def members (item : List Char → Outcome (Json × List Char)) :
    Nat → Bool → List Char → Outcome (Members × List Char)
  | 0, _, s => failAt .endInObject s
  | fuel + 1, first, s => do
      match ← nextKey first s with
      | .inr rest => return (.nil, rest)
      | .inl (key, s) =>
          let s ← colon s
          let (value, s) ← item s
          let (tail, s) ← members item fuel false s
          return (.cons key value tail, s)

/-- What stands for a value that is no array and no object. -/
inductive Scalar where
  | null
  | bool (value : Bool)
  | number (value : Number)
  | string (value : String)

/-- The document of a scalar. -/
def Scalar.toJson : Scalar → Json
  | .null => .null
  | .bool b => .bool b
  | .number n => .number n
  | .string s => .string s

/-- A scalar from the front of a text without leading blanks. -/
def scalar (s : List Char) : Outcome (Scalar × List Char) :=
  match s with
  | 'n' :: r => do return (.null, ← word ['u', 'l', 'l'] r)
  | 't' :: r => do return (.bool true, ← word ['r', 'u', 'e'] r)
  | 'f' :: r => do return (.bool false, ← word ['a', 'l', 's', 'e'] r)
  | '-' :: r => do
      let (n, r) ← number true r
      return (.number n, r)
  | '"' :: r => do
      let (s, r) ← string r
      return (.string s, r)
  | c :: _ =>
      if c.isDigit then do
        let (n, r) ← number false s
        return (.number n, r)
      else failIn .expectedValue s
  | [] => failAt .endInValue []

/-- A document from the front of a text, with so many levels of arrays and
    objects. -/
def value : Nat → List Char → Outcome (Json × List Char)
  | levels, s =>
      match skipBlanks s with
      | '[' :: r =>
          match levels with
          | 0 => failIn .tooDeep ('[' :: r)
          | levels + 1 => do
              let (xs, rest) ← items (value levels) (r.length + 1) true r
              return (.array xs, rest)
      | '\x7b' :: r =>
          match levels with
          | 0 => failIn .tooDeep ('\x7b' :: r)
          | levels + 1 => do
              let (ms, rest) ← members (value levels) (r.length + 1) true r
              return (.object ms, rest)
      | s => do
          let (v, rest) ← scalar s
          return (v.toJson, rest)

/-- The levels of arrays and objects that a text may have. -/
def maxDepth : Nat := 127

/-- Nothing but blanks. -/
def finish (s : List Char) : Outcome Unit :=
  match skipBlanks s with
  | [] => .ok ()
  | s => failIn .trailingCharacters s

end Reader

/-- What is wrong with a text, and where. -/
structure SyntaxError where
  problem : Problem
  position : Position
  deriving DecidableEq

/-- The wording of an error. -/
def SyntaxError.message (e : SyntaxError) : String :=
  e.problem.message ++ e.position.suffix

/-- The document of a list of characters. -/
def ofChars (s : List Char) : Except (Fault Problem) Json := do
  let (v, rest) ← Reader.value Reader.maxDepth s
  Reader.finish rest
  return v

/-- The document of a text. -/
def parse (text : String) : Except SyntaxError Json :=
  (ofChars text.toList).mapError fun f => ⟨f.problem, f.position text.toList⟩

end Json

/-- What a text means. -/
def Payload.parse (text : String) : Except Json.SyntaxError Payload :=
  (Json.parse text).map Payload.ofJson

end PartyLine
