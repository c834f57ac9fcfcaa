import PartyLine.Configuration.Path
import PartyLine.Double.Decimal
import PartyLine.Text.Lowercase

/-!
# The environment as a layer

Variables whose names start with `RELAY_`, in any case, are settings: the rest of
the name, in lower case and with points for double underscores, is the path.
A text that is a boolean or a number counts as one.

* `Configuration.Environment.layer`: the layer of some variables.
-/

namespace PartyLine

namespace Configuration

/-- The variables of a process with their texts. -/
abbrev Environment := List (String × String)

namespace Environment

/-- What the names of settings start with, in lower case. -/
def marker : List Char := "relay_".toList

/-- A point for each pair of underscores, from the left. -/
def separate : List Char → List Char
  | '_' :: '_' :: s => '.' :: separate s
  | c :: s => c :: separate s
  | [] => []

/-- The path of a setting; none if the variable is not one. -/
def key? (name : String) : Option String :=
  let name := (Text.lowercase name).toList
  if marker.isPrefixOf name then some (String.ofList (separate (name.drop marker.length)))
  else none

/-- The boolean of a text in any case. -/
def boolean? (s : String) : Option Bool :=
  match Text.lowercase s with
  | "true" => some true
  | "false" => some false
  | _ => none

/-- The sign in front of a text and what follows. -/
def splitSign : List Char → Bool × List Char
  | '-' :: s => (true, s)
  | '+' :: s => (false, s)
  | s => (false, s)

/-- The integer of a text, if it fits 64 bits with sign. -/
def integer? (s : List Char) : Option Int :=
  let (negative, digits) := splitSign s
  ((Path.natural? digits).map fun n => if negative then -(n : Int) else n).filter
    fun i => -0x8000000000000000 ≤ i ∧ i < 0x8000000000000000

/-- The exponent at the end of a number; 0 if there is none. -/
def exponent? : List Char → Option Int
  | [] => some 0
  | c :: s =>
      if c = 'e' ∨ c = 'E' then
        let (negative, digits) := splitSign s
        (Path.natural? digits).map fun n => if negative then -(n : Int) else n
      else none

/-- The double of a text of digits with a point and an exponent at will. -/
def decimal? (negative : Bool) (s : List Char) : Option ExtendedDouble := do
  let whole := s.takeWhile Char.isDigit
  let rest := s.dropWhile Char.isDigit
  let (fraction, rest) := match rest with
    | '.' :: r => (r.takeWhile Char.isDigit, r.dropWhile Char.isDigit)
    | r => ([], r)
  let digits ← Path.natural? (whole ++ fraction)
  let e ← exponent? rest
  return .ofRounded negative (Double.ofDecimal? negative digits (e - fraction.length))

/-- The number of a text, where words stand for the infinities and for no number. -/
def real? (s : List Char) : Option ExtendedDouble :=
  let (negative, body) := splitSign s
  match String.ofList (body.map Char.toLower) with
  | "inf" | "infinity" => some (.infinite negative)
  | "nan" => some .notANumber
  | _ => decimal? negative body

/-- What a text counts as. -/
def scalar (s : String) : Scalar :=
  match boolean? s, integer? s.toList, real? s.toList with
  | some b, _, _ => .boolean b
  | none, some i, _ => .integer i
  | none, none, some x => .real x
  | none, none, none => .text s

/-- The layer of some variables. -/
def layer (env : Environment) : List (String × Configuration) :=
  env.filterMap fun (name, text) =>
    (key? name).map fun key => (key, .scalar (some .environment) (scalar text))

end Environment

end Configuration

end PartyLine
