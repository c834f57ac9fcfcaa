import PartyLine.Json.Reader

/-!
# Passing over documents

A value that nobody asked for is passed over without being built. Its grammar
is checked, but neither its depth nor the size of its numbers nor the pairing of
its surrogates matters.

* `Json.Reader.skipValue`: the rest of a text after one document.
-/

namespace PartyLine

namespace Json

namespace Reader

/-- The rest after the exponent of a number, from its `e` on. -/
def skipExponent (s : List Char) : Outcome (List Char) :=
  let s := match s with
    | '+' :: r | '-' :: r => r
    | s => s
  match s with
  | c :: r => if c.isDigit then .ok (r.dropWhile Char.isDigit) else failIn .invalidNumber s
  | [] => failAt .invalidNumber []

/-- The rest after the whole part of a number. -/
def skipFraction (s : List Char) : Outcome (List Char) :=
  match s with
  | '.' :: r =>
      let rest := r.dropWhile Char.isDigit
      if (r.takeWhile Char.isDigit).isEmpty then failIn .invalidNumber rest
      else
        match rest with
        | 'e' :: r | 'E' :: r => skipExponent r
        | rest => .ok rest
  | 'e' :: r | 'E' :: r => skipExponent r
  | s => .ok s

/-- The rest after a number, from the one that follows its sign. -/
def skipNumber (s : List Char) : Outcome (List Char) :=
  match s with
  | '0' :: r =>
      match r with
      | c :: _ => if c.isDigit then failIn .invalidNumber r else skipFraction r
      | [] => .ok []
  | c :: r =>
      if c.isDigit then skipFraction (r.dropWhile Char.isDigit)
      else failIn .invalidNumber s
  | [] => failAt .invalidNumber []

/-- The rest after an escape, from the one that follows its backslash. -/
def skipEscape (s : List Char) : Outcome (List Char) :=
  match s with
  | [] => failAt .endInString []
  | 'u' :: r => do
      let (_, rest) ← hexQuad r
      return rest
  | c :: r =>
      if ['"', '\\', '/', 'b', 'f', 'n', 'r', 't'].contains c then .ok r
      else failIn .invalidEscape s

/-- The rest after a string, at most `fuel` characters long. -/
def skipString : Nat → List Char → Outcome (List Char)
  | 0, s => failAt .endInString s
  | _ + 1, [] => failAt .endInString []
  | fuel + 1, c :: s =>
      if c = '"' then .ok s
      else if c = '\\' then do skipString fuel (← skipEscape s)
      else if c.toNat < 0x20 then failAt .controlCharacter (c :: s)
      else skipString fuel s

/-- The kinds of brackets that are open around a value. -/
inductive Bracket where
  | list
  | object
  deriving DecidableEq

/-- The text at the value of the next member of an object. -/
def skipKey (s : List Char) : Outcome (List Char) := do
  match skipBlanks s with
  | [] => failAt .endInObject []
  | '"' :: r => colon (← skipString (r.length + 1) r)
  | s => failIn .keyNotString s

/-- Closes what is closed and goes to the next value within the open brackets.
    The right result is the rest of the text once no bracket is open; `closed`
    says whether a value has just ended, so that a comma may follow. -/
def skipToValue : Nat → Bool → List Bracket → List Char →
    Outcome ((List Bracket × List Char) ⊕ List Char)
  | 0, _, _, s => failAt .endInValue s
  | _ + 1, _, [], s => .ok (.inr s)
  | fuel + 1, closed, bracket :: outer, s =>
      let enter (s : List Char) : Outcome ((List Bracket × List Char) ⊕ List Char) :=
        match bracket with
        | .list => .ok (.inl (bracket :: outer, s))
        | .object => do return .inl (bracket :: outer, ← skipKey s)
      match skipBlanks s, bracket with
      | [], .list => failAt .endInList []
      | [], .object => failAt .endInObject []
      | ']' :: r, .list => skipToValue fuel true outer r
      | '\x7d' :: r, .object => skipToValue fuel true outer r
      | ',' :: r, _ =>
          if closed then enter r else enter (',' :: r)
      | s, .list => if closed then failIn .expectedItemEnd s else enter s
      | s, .object => if closed then failIn .expectedMemberEnd s else enter s

/-- Passes over values until no bracket is open, at most `fuel` of them. -/
def skipValues : Nat → List Bracket → List Char → Outcome (List Char)
  | 0, _, s => failAt .endInValue s
  | fuel + 1, brackets, s => do
      let next ← match skipBlanks s with
        | [] => failAt .endInValue []
        | '[' :: r => skipToValue (r.length + 2) false (.list :: brackets) r
        | '\x7b' :: r => skipToValue (r.length + 2) false (.object :: brackets) r
        | 'n' :: r => do let r ← word ['u', 'l', 'l'] r; skipToValue (r.length + 2) true brackets r
        | 't' :: r => do let r ← word ['r', 'u', 'e'] r; skipToValue (r.length + 2) true brackets r
        | 'f' :: r => do
            let r ← word ['a', 'l', 's', 'e'] r
            skipToValue (r.length + 2) true brackets r
        | '-' :: r => do let r ← skipNumber r; skipToValue (r.length + 2) true brackets r
        | '"' :: r => do
            let r ← skipString (r.length + 1) r
            skipToValue (r.length + 2) true brackets r
        | c :: r =>
            if c.isDigit then do
              let r ← skipNumber (c :: r)
              skipToValue (r.length + 2) true brackets r
            else failIn .expectedValue (c :: r)
      match next with
      | .inr rest => return rest
      | .inl (brackets, s) => skipValues fuel brackets s

/-- The rest of a text after one document that is passed over. -/
def skipValue (s : List Char) : Outcome (List Char) := skipValues (s.length + 1) [] s

end Reader

end Json

end PartyLine
