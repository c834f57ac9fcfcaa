/-!
# What is wrong with a JSON text

A reader that stops reports a `Json.Problem` and how many bytes it had left.
`Json.Position.after` turns the bytes read into a line, counted from 1, and a
column, the bytes since the last line break.
-/

namespace PartyLine

namespace Json

/-- Why a text is no document. -/
inductive Problem where
  | endInList
  | endInObject
  | endInString
  | endInValue
  | expectedColon
  | expectedItemEnd
  | expectedMemberEnd
  | expectedWord
  | expectedValue
  | invalidEscape
  | invalidNumber
  | numberOutOfRange
  | controlCharacter
  | keyNotString
  | loneSurrogate
  | trailingComma
  | trailingCharacters
  | endInSurrogatePair
  | tooDeep
  deriving DecidableEq, Inhabited

/-- The wording of a problem. -/
def Problem.message : Problem → String
  | endInList => "EOF while parsing a list"
  | endInObject => "EOF while parsing an object"
  | endInString => "EOF while parsing a string"
  | endInValue => "EOF while parsing a value"
  | expectedColon => "expected \x60:\x60"
  | expectedItemEnd => "expected \x60,\x60 or \x60]\x60"
  | expectedMemberEnd => "expected \x60,\x60 or \x60\x7d\x60"
  | expectedWord => "expected ident"
  | expectedValue => "expected value"
  | invalidEscape => "invalid escape"
  | invalidNumber => "invalid number"
  | numberOutOfRange => "number out of range"
  | controlCharacter => "control character (\\u0000-\\u001F) found while parsing a string"
  | keyNotString => "key must be a string"
  | loneSurrogate => "lone leading surrogate in hex escape"
  | trailingComma => "trailing comma"
  | trailingCharacters => "trailing characters"
  | endInSurrogatePair => "unexpected end of hex escape"
  | tooDeep => "recursion limit exceeded"

/-- The number of bytes of a text. -/
def byteCount (s : List Char) : Nat := s.foldr (fun c n => c.utf8Size + n) 0

/-- A place in a text. -/
structure Position where
  line : Nat
  column : Nat
  deriving DecidableEq, Inhabited

namespace Position

/-- The position `bytes` further in `text`. A place inside a character counts
    the bytes of it that were read. -/
def advance : Position → List Char → Nat → Position
  | p, [], _ => p
  | p, c :: rest, bytes =>
      if bytes = 0 then p
      else if c = '\n' then advance ⟨p.line + 1, 0⟩ rest (bytes - 1)
      else advance ⟨p.line, p.column + min bytes c.utf8Size⟩ rest (bytes - c.utf8Size)

/-- The position after so many bytes of a text. -/
def after (text : List Char) (bytes : Nat) : Position := advance ⟨1, 0⟩ text bytes

/-- The wording of a position, as it follows the wording of a problem. -/
def suffix (p : Position) : String :=
  " at line " ++ toString p.line ++ " column " ++ toString p.column

end Position

/-- A problem and the bytes that were still unread when it was met. -/
structure Fault (π : Type) where
  problem : π
  unread : Nat
  deriving DecidableEq

/-- Where in `text` a fault was met. -/
def Fault.position {π : Type} (f : Fault π) (text : List Char) : Position :=
  .after text (byteCount text - f.unread)

end Json

end PartyLine
