import PartyLine.Text.Unprintable

/-!
# Quoted texts

How a message shows a text it was given: between double quotes, with the
backslash, the quote and whatever has no printed form of its own escaped.
-/

namespace PartyLine

namespace Text

/-- A character inside a quoted text. -/
def quotedChar (c : Char) : List Char :=
  match c with
  | '"' => ['\\', '"']
  | '\\' => ['\\', '\\']
  | '\t' => ['\\', 't']
  | '\r' => ['\\', 'r']
  | '\n' => ['\\', 'n']
  | '\x00' => ['\\', '0']
  | c =>
      if c < ' ' ∨ c = '\x7f' ∨ ('\x7f' < c ∧ isUnprintable c) then
        '\\' :: 'u' :: '\x7b' :: Nat.toDigits 16 c.toNat ++ ['\x7d']
      else
        [c]

/-- A text between double quotes. -/
def quoted (s : String) : String :=
  String.ofList ('"' :: s.toList.flatMap quotedChar ++ ['"'])

/-- A text between backquotes. -/
def backquoted (s : String) : String :=
  "\x60" ++ s ++ "\x60"

end Text

end PartyLine
