import PartyLine.Toml

/-!
# Reading TOML

A document is read line by line: a header, a key with its value, or nothing. The
readers take the characters that are left and give what they have read and the
rest, or nothing where the text is no TOML; why it is none is not kept.

Each reader takes at least one character of what it goes on from, so that the length of the text is
fuel enough for values inside values, for the items of an array and for the lines of a document.
What kind of value comes is decided by its first characters.

* `Toml.Reader.value?`: a value in front of a text;
* `Toml.parse?`: the document of a text.
-/

namespace PartyLine

namespace Toml

namespace Reader

/-! ### Blanks and ends of lines -/

/-- Blanks within a line. -/
def isBlank (c : Char) : Bool := c == ' ' || c == '\t'

/-- Characters that stand for themselves in comments and strings. -/
def isPlain (c : Char) : Bool := c == '\t' || (' ' ≤ c && c != '\x7f')

/-- A text without its leading blanks. -/
def skipBlanks (s : List Char) : List Char := s.dropWhile isBlank

/-- The rest after the end of a line in front of a text. -/
def newline? : List Char → Option (List Char)
  | '\n' :: s => some s
  | '\r' :: '\n' :: s => some s
  | _ => none

/-- A text without the comment in front of it. -/
def skipComment : List Char → List Char
  | '#' :: s => s.dropWhile isPlain
  | s => s

/-- The rest after blanks, a comment and the end of the line or of the text. -/
def endLine? (s : List Char) : Option (List Char) :=
  match skipComment (skipBlanks s) with
  | [] => some []
  | s => newline? s

/-- A text without leading blanks, comments and ends of lines, of which at most
    so many are skipped. -/
def skipLines : Nat → List Char → List Char
  | 0, s => s
  | fuel + 1, s =>
      let s := skipComment (skipBlanks s)
      match newline? s with
      | some rest => skipLines fuel rest
      | none => s

/-- A text without all that stands between two items of an array. -/
def skipGap (s : List Char) : List Char := skipLines s.length s

/-! ### Strings -/

/-- The character of hexadecimal digits. -/
def scalarValue? (digits : List Char) : Option Char :=
  let value (c : Char) : Option Nat :=
    if c.isDigit then some (c.toNat - '0'.toNat)
    else if 'a' ≤ c ∧ c ≤ 'f' then some (c.toNat - 'a'.toNat + 10)
    else if 'A' ≤ c ∧ c ≤ 'F' then some (c.toNat - 'A'.toNat + 10)
    else none
  (digits.foldlM (fun n c => (value c).map (16 * n + ·)) 0).bind fun n =>
    if n.isValidChar then some (Char.ofNat n) else none

/-- The character of so many hexadecimal digits in front of a text. -/
def hexEscape? (count : Nat) (s : List Char) : Option (Char × List Char) :=
  if (s.take count).length = count then
    (scalarValue? (s.take count)).map fun c => (c, s.drop count)
  else none

/-- The character of an escape, after its backslash. -/
def escape? : List Char → Option (Char × List Char)
  | 'b' :: s => some ('\x08', s)
  | 't' :: s => some ('\t', s)
  | 'n' :: s => some ('\n', s)
  | 'f' :: s => some ('\x0c', s)
  | 'r' :: s => some ('\r', s)
  | 'e' :: s => some ('\x1b', s)
  | '"' :: s => some ('"', s)
  | '\\' :: s => some ('\\', s)
  | 'x' :: s => hexEscape? 2 s
  | 'u' :: s => hexEscape? 4 s
  | 'U' :: s => hexEscape? 8 s
  | _ => none

/-- A string on one line, after its opening quote; at most so many characters. -/
def basic? : Nat → List Char → Option (List Char × List Char)
  | 0, _ => none
  | _, [] => none
  | fuel + 1, c :: s =>
      if c = '"' then some ([], s)
      else if c = '\\' then do
        let (e, s) ← escape? s
        let (cs, s) ← basic? fuel s
        return (e :: cs, s)
      else if isPlain c then (basic? fuel s).map fun (cs, s) => (c :: cs, s)
      else none

/-- A string on one line without escapes, after its opening quote. -/
def literal? (s : List Char) : Option (List Char × List Char) :=
  match s.dropWhile fun c => isPlain c && c != '\x27' with
  | '\x27' :: rest => some (s.takeWhile fun c => isPlain c && c != '\x27', rest)
  | _ => none

/-- The quotes that end a string of several lines, up to two of them belonging
    to the string itself. -/
def closing? (quote : Char) (s : List Char) : Option (List Char × List Char) :=
  let quotes := (s.takeWhile (· == quote)).length
  if 3 ≤ quotes then
    let kept := min (quotes - 3) 2
    some (List.replicate kept quote, s.drop (kept + 3))
  else none

/-- The rest after a backslash that joins lines: blanks to the end of the line
    and all blank lines that follow. -/
def joinLines? (s : List Char) : Option (List Char) :=
  (newline? (skipBlanks s)).map (·.dropWhile fun c => isBlank c || c == '\n' || c == '\r')

/-- A string of several lines, after its opening quotes; at most so many
    characters. With `escapes`, backslashes are not what they are. -/
def lines? (quote : Char) (escapes : Bool) : Nat → List Char → Option (List Char × List Char)
  | 0, _ => none
  | _, [] => none
  | fuel + 1, c :: s =>
      match closing? quote (c :: s), newline? (c :: s) with
      | some (quotes, rest), _ => some (quotes, rest)
      | none, some rest => (lines? quote escapes fuel rest).map fun (cs, r) => ('\n' :: cs, r)
      | none, none =>
          if escapes ∧ c = '\\' then
            match joinLines? s with
            | some rest => lines? quote escapes fuel rest
            | none => do
                let (e, s) ← escape? s
                let (cs, s) ← lines? quote escapes fuel s
                return (e :: cs, s)
          else if isPlain c then (lines? quote escapes fuel s).map fun (cs, s) => (c :: cs, s)
          else none

/-- The text of several lines; an end of line right after the quotes is dropped. -/
def block? (quote : Char) (escapes : Bool) (s : List Char) : Option (List Char × List Char) :=
  lines? quote escapes (s.length + 1) ((newline? s).getD s)

/-- A string in any of its four ways of writing. -/
def string? (s : List Char) : Option (String × List Char) :=
  let text := match s with
    | '"' :: '"' :: '"' :: s => block? '"' true s
    | '\x27' :: '\x27' :: '\x27' :: s => block? '\x27' false s
    | '"' :: s => basic? (s.length + 1) s
    | '\x27' :: s => literal? s
    | _ => none
  text.map fun (cs, rest) => (String.ofList cs, rest)

/-! ### Keys -/

/-- The characters of keys without quotes. -/
def isKeyChar (c : Char) : Bool := c.isAlphanum || c == '_' || c == '-'

/-- A key without points. -/
def name? (s : List Char) : Option (String × List Char) :=
  match s with
  | '"' :: s => (basic? (s.length + 1) s).map fun (cs, rest) => (String.ofList cs, rest)
  | '\x27' :: s => (literal? s).map fun (cs, rest) => (String.ofList cs, rest)
  | s =>
      let name := s.takeWhile isKeyChar
      if name.isEmpty then none else some (String.ofList name, s.dropWhile isKeyChar)

/-- A key: the names before its points, at most so many, and the last name. -/
def key? : Nat → List Char → Option ((List String × String) × List Char)
  | 0, _ => none
  | fuel + 1, s => do
      let (name, s) ← name? (skipBlanks s)
      match skipBlanks s with
      | '.' :: s => do
          let ((names, last), s) ← key? fuel s
          return ((name :: names, last), s)
      | s => return (([], name), s)

/-! ### Scalars without quotes -/

/-- The digits of a group in which single underscores may stand between digits. -/
def digits? (isDigit : Char → Bool) : List Char → Option (List Char)
  | [] => none
  | [c] => if isDigit c then some [c] else none
  | c :: '_' :: s => if isDigit c then (digits? isDigit s).map (c :: ·) else none
  | c :: s => if isDigit c then (digits? isDigit s).map (c :: ·) else none

/-- The natural of digits to a base. -/
def ofDigits (base : Nat) (digits : List Char) : Nat :=
  digits.foldl (fun n c =>
    base * n + (if c.isDigit then c.toNat - '0'.toNat else c.toLower.toNat - 'a'.toNat + 10)) 0

/-- The natural of a group of digits to a base. -/
def based? (base : Nat) (isDigit : Char → Bool) (s : List Char) : Option Nat :=
  (digits? isDigit s).map (ofDigits base)

/-- The digits of a whole number, which starts with a zero only if it is zero. -/
def whole? (s : List Char) : Option (List Char) := do
  let digits ← digits? Char.isDigit s
  if digits.length = 1 ∨ digits.head? ≠ some '0' then return digits else none

/-- The sign in front of a number and what follows. -/
def splitSign : List Char → Bool × List Char
  | '-' :: s => (true, s)
  | '+' :: s => (false, s)
  | s => (false, s)

/-- An integer; it fits 64 bits with sign. -/
def integer? (s : List Char) : Option Int := do
  let i ← match s with
    | '0' :: 'x' :: s => (based? 16 (fun c => c.isDigit ||
        ('a' ≤ c && c ≤ 'f') || ('A' ≤ c && c ≤ 'F')) s).map Int.ofNat
    | '0' :: 'o' :: s => (based? 8 (fun c => '0' ≤ c && c ≤ '7') s).map Int.ofNat
    | '0' :: 'b' :: s => (based? 2 (fun c => c == '0' || c == '1') s).map Int.ofNat
    | s =>
        let (negative, s) := splitSign s
        (whole? s).map fun digits =>
          if negative then -(ofDigits 10 digits : Int) else ofDigits 10 digits
  if -0x8000000000000000 ≤ i ∧ i < 0x8000000000000000 then return i else none

/-- The exponent at the end of a number; 0 if there is none. -/
def exponent? : List Char → Option Int
  | [] => some 0
  | c :: s =>
      if c = 'e' ∨ c = 'E' then
        let (negative, s) := splitSign s
        (digits? Char.isDigit s).map fun digits =>
          if negative then -(ofDigits 10 digits : Int) else ofDigits 10 digits
      else none

/-- Whether a character is a digit or joins digits. -/
def isDigitOrJoin (c : Char) : Bool := c.isDigit || c == '_'

/-- A number with a fraction or an exponent, or one of the words for what is no
    finite number; a number beyond the doubles is none. -/
def float? (s : List Char) : Option ExtendedDouble :=
  let (negative, s) := splitSign s
  match String.ofList s with
  | "inf" => some (.infinite negative)
  | "nan" => some .notANumber
  | _ => do
      let whole ← whole? (s.takeWhile isDigitOrJoin)
      let (fraction, rest) ← match s.dropWhile isDigitOrJoin with
        | '.' :: rest => do
            let fraction ← digits? Char.isDigit (rest.takeWhile isDigitOrJoin)
            some (fraction, rest.dropWhile isDigitOrJoin)
        | [] => none
        | rest => some ([], rest)
      let e ← exponent? rest
      let x ← Double.ofDecimal? negative (ofDigits 10 (whole ++ fraction)) (e - fraction.length)
      return .finite x

/-- The value of a word. -/
def word? (s : List Char) : Option Toml :=
  match String.ofList s with
  | "true" => some (.boolean true)
  | "false" => some (.boolean false)
  | _ =>
      (integer? s).map .integer <|> (float? s).map .float <|>
        (Datetime.read? s).map .datetime

/-- The characters of words. -/
def isWordChar (c : Char) : Bool := c.isAlphanum || ['_', '+', '-', '.', ':'].contains c

/-- A word in front of a text; a blank may stand between a date and a time. -/
def splitWord (s : List Char) : List Char × List Char :=
  let word := s.takeWhile isWordChar
  let rest := s.dropWhile isWordChar
  match Datetime.date? word, rest with
  | some (_, []), ' ' :: a :: b :: ':' :: _ =>
      if a.isDigit ∧ b.isDigit then
        (word ++ ' ' :: (rest.drop 1).takeWhile isWordChar, (rest.drop 1).dropWhile isWordChar)
      else (word, rest)
  | _, _ => (word, rest)

/-! ### Values -/

mutual

/-- A value in front of a text; the fuel bounds the depth and the number of items. -/
def value? : Nat → List Char → Option (Toml × List Char)
  | 0, _ => none
  | fuel + 1, s =>
      match s with
      | '[' :: s => (items? fuel (skipGap s)).map fun (xs, rest) => (.array xs, rest)
      | '\x7b' :: s => (entries? fuel .nil (skipGap s)).map fun (es, rest) => (.inline es, rest)
      | '"' :: _ | '\x27' :: _ => (string? s).map fun (text, rest) => (.string text, rest)
      | s =>
          let (word, rest) := splitWord s
          (word? word).map (·, rest)

/-- The items of an array, after its bracket or a comma. -/
def items? : Nat → List Char → Option (Items × List Char)
  | 0, _ => none
  | fuel + 1, s =>
      match s with
      | ']' :: rest => some (.nil, rest)
      | s => do
          let (x, s) ← value? fuel s
          match skipGap s with
          | ']' :: rest => return (.cons x .nil, rest)
          | ',' :: rest => do
              let (xs, rest) ← items? fuel (skipGap rest)
              return (.cons x xs, rest)
          | _ => none

/-- The entries of a table between braces, after its brace or a comma. -/
def entries? : Nat → Entries → List Char → Option (Entries × List Char)
  | 0, _, _ => none
  | fuel + 1, es, s =>
      match s with
      | '\x7d' :: rest => some (es, rest)
      | s => do
          let ((names, last), s) ← key? (s.length + 1) s
          match s with
          | '=' :: s => do
              let (x, s) ← value? fuel (skipBlanks s)
              let es ← es.assign? x names last
              match skipGap s with
              | '\x7d' :: rest => return (es, rest)
              | ',' :: rest => entries? fuel es (skipGap rest)
              | _ => none
          | _ => none

end

/-! ### Documents -/

/-- A document in the making: its entries, and the table that keys go into. -/
structure Draft where
  entries : Entries := .nil
  current : List String := []

/-- Opens the table of a header, after its brackets. -/
def header? (repeated : Bool) (d : Draft) (s : List Char) : Option (Draft × List Char) := do
  let ((names, last), s) ← key? (s.length + 1) s
  let s ← match repeated, s with
    | true, ']' :: ']' :: s => some s
    | false, ']' :: s => some s
    | _, _ => none
  let openLast (es : Entries) := if repeated then es.openElement? last else es.openTable? last
  let entries ← d.entries.follow? openLast names
  return ({ entries, current := names ++ [last] }, s)

/-- Sets the key in front of a text to its value. -/
def assignment? (d : Draft) (s : List Char) : Option (Draft × List Char) := do
  let ((names, last), s) ← key? (s.length + 1) s
  match s with
  | '=' :: s => do
      let s := skipBlanks s
      let (x, s) ← value? (s.length + 1) s
      let entries ← d.entries.follow? (·.assign? x names last) d.current
      return ({ d with entries }, s)
  | _ => none

/-- Reads what stands on a line before its comment. -/
def line? (d : Draft) (s : List Char) : Option (Draft × List Char) :=
  match skipBlanks s with
  | '[' :: '[' :: s => header? true d s
  | '[' :: s => header? false d s
  | s =>
      match skipComment s with
      | [] => some (d, [])
      | rest => if (newline? rest).isSome then some (d, rest) else assignment? d s

/-- Reads the lines of a document, at most so many. -/
def document? : Nat → Draft → List Char → Option Draft
  | _, d, [] => some d
  | 0, _, _ => none
  | fuel + 1, d, s => do
      let (d, s) ← line? d s
      document? fuel d (← endLine? s)

end Reader

/-- The entries of the document that a text is. -/
def parse? (text : String) : Option Entries :=
  let s := text.toList
  (Reader.document? (s.length + 1) {} s).map (·.entries)

end Toml

end PartyLine
