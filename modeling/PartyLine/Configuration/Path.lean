import PartyLine.Configuration

/-!
# Paths

The keys of a layer are *paths*: names joined by points, with places in arrays
between brackets, as in `transport.websocket` or `servers[0].url`. A key that is
no such path names an entry as it stands.

* `Configuration.Path.parse`: the steps of a key;
* `Configuration.withLayer`: a layer of keys and values laid over a configuration.
-/

namespace PartyLine

namespace Configuration

namespace Path

/-- The characters of names. -/
def isNameChar (c : Char) : Bool := c.isAlphanum || c == '_' || c == '-'

/-- Blanks around a place. -/
def isBlank (c : Char) : Bool := c == ' ' || c == '\t'

/-- The natural of some decimal digits, at least one. -/
def natural? (s : List Char) : Option Nat :=
  if s.isEmpty || !s.all Char.isDigit then none
  else some (s.foldl (fun n c => 10 * n + (c.toNat - '0'.toNat)) 0)

/-- The place between two brackets; it fits 64 bits. -/
def place? (s : List Char) : Option Int :=
  match s with
  | '-' :: digits =>
      ((natural? digits).filter (· ≤ 0x8000000000000000)).map fun n => -(n : Int)
  | digits => ((natural? digits).filter (· < 0x8000000000000000)).map Int.ofNat

/-- The steps of a text in which each starts with its mark, at most so many. -/
def steps? : Nat → List Char → Option (List Step)
  | _, [] => some []
  | 0, _ => none
  | fuel + 1, '.' :: s =>
      let name := s.takeWhile isNameChar
      if name.isEmpty then none
      else (steps? fuel (s.dropWhile isNameChar)).map (.key (String.ofList name) :: ·)
  | fuel + 1, '[' :: s =>
      let s := s.dropWhile isBlank
      let digits := s.takeWhile fun c => c.isDigit || c == '-'
      match place? digits, (s.drop digits.length).dropWhile isBlank with
      | some i, ']' :: rest => (steps? fuel rest).map (.index i :: ·)
      | _, _ => none
  | _, _ => none

/-- The steps of a key: those of the path that it is, or the one that it names. -/
def parse (key : String) : List Step :=
  (steps? (key.length + 1) ('.' :: key.toList)).getD [.key key]

end Path

/-- Lays values over a configuration, each at the path that its key is, the
    later ones over the earlier ones. -/
def withLayer (below : Configuration) (layer : List (String × Configuration)) : Configuration :=
  layer.foldl (fun c (key, value) => c.assign (Path.parse key) value) below

end Configuration

end PartyLine
