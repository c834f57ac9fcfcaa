import PartyLine.Double.Decimal
import PartyLine.Json

/-!
# Compact text of documents

The text of a document without blanks, its members in their order. Inside a
string only the quote, the backslash and the characters below the space are
escaped; all others stand for themselves.

* `Json.render`: the text as characters;
* `Json.text`: the text as a string.
-/

namespace PartyLine

namespace Json

/-- The decimal text of an integer. -/
def integerText : Int → List Char
  | .ofNat n => Nat.toDigits 10 n
  | .negSucc n => '-' :: Nat.toDigits 10 (n + 1)

/-- The text of a number. A double always has a point or an exponent. -/
def Number.render : Number → List Char
  | .integer i _ => integerText i
  | .double x => NumberStyle.json.write x

/-- One lower-case hexadecimal digit. -/
def hexDigit (n : Nat) : Char := Nat.digitChar (n % 16)

/-- A character inside a string. -/
def escape (c : Char) : List Char :=
  match c with
  | '"' => ['\\', '"']
  | '\\' => ['\\', '\\']
  | '\x08' => ['\\', 'b']
  | '\t' => ['\\', 't']
  | '\n' => ['\\', 'n']
  | '\x0c' => ['\\', 'f']
  | '\r' => ['\\', 'r']
  | c =>
      if c.toNat < 0x20 then
        ['\\', 'u', '0', '0', hexDigit (c.toNat / 16), hexDigit c.toNat]
      else
        [c]

/-- A string between its quotes. -/
def renderString (s : String) : List Char :=
  '"' :: (s.toList.flatMap escape ++ ['"'])

mutual

/-- The characters of a document. -/
def render : Json → List Char
  | .null => ['n', 'u', 'l', 'l']
  | .bool true => ['t', 'r', 'u', 'e']
  | .bool false => ['f', 'a', 'l', 's', 'e']
  | .number n => n.render
  | .string s => renderString s
  | .array items => '[' :: (items.render ++ [']'])
  | .object members => '\x7b' :: (members.render ++ ['\x7d'])

/-- The items with commas between them. -/
def Items.render : Items → List Char
  | .nil => []
  | .cons head .nil => head.render
  | .cons head tail => head.render ++ ',' :: tail.render

/-- The members with commas between them. -/
def Members.render : Members → List Char
  | .nil => []
  | .cons key value .nil => renderString key ++ ':' :: value.render
  | .cons key value tail => renderString key ++ ':' :: (value.render ++ ',' :: tail.render)

end

/-- The compact text of a document. -/
def text (v : Json) : String := String.ofList v.render

end Json

/-- The compact text of a payload. -/
def Payload.text (p : Payload) : String := p.document.text

end PartyLine
