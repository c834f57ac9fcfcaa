import PartyLine.Configuration.Environment
import PartyLine.Json.Printer
import PartyLine.Text.Quoted

/-!
# Reading a configuration

A configuration is read with good will: a text may stand for a boolean or a
number, a number for a text, and an array for a table with its fields in order.
What fits nothing is a *misfit*.

Nothing is converted before it is asked for, so that a value is judged by what its field wants: a
text by a flag or a natural, an array by a section. An error says what was found and what was
wanted, with the keys that lead there and the origin of the value, as far as it is known.

* `Configuration.readText`, `readNatural`, `readFlag`, `readChoice`: leaves;
* `Configuration.readField`: a field of a section;
* `Configuration.ReadError`: a misfit and its place.
-/

namespace PartyLine

namespace Configuration

/-- Something in a configuration that is not what belongs there. -/
inductive Misfit where
  /-- A value of another type than the setting's. -/
  | type (origin : Option Origin) (found expected : String)
  /-- A value that is no section. -/
  | noSection (found name : String)
  /-- A name that is not among the choices. -/
  | unknownChoice (choices name : String)
  /-- A value that names no choice. -/
  | noChoice (choices : String)
  deriving DecidableEq

/-- The wording of a misfit of the settings' types. -/
def Misfit.message : Misfit → String
  | type _ found expected | noSection found expected =>
      "invalid type: " ++ found ++ ", expected " ++ expected
  | unknownChoice choices name =>
      "enum " ++ choices ++ " does not have variant constructor " ++ name
  | noChoice choices =>
      "value of enum " ++ choices ++
        " should be represented by either string or table with exactly one key"

/-- A misfit, and the steps that lead to it. -/
structure ReadError where
  place : List Step
  misfit : Misfit
  deriving DecidableEq

namespace ReadError

/-- The text of a place. -/
def placeText : List Step → String
  | [] => ""
  | .index i :: rest => "[" ++ String.ofList (Json.integerText i) ++ "]" ++ placeText rest
  | .key name :: .key next :: rest => name ++ "." ++ placeText (.key next :: rest)
  | .key name :: rest => name ++ placeText rest

/-- The wording of an error; the origin is told of a value, if it has one. -/
def message (e : ReadError) : String :=
  e.misfit.message ++ " for key " ++ Text.backquoted (placeText e.place) ++
    match e.misfit with
    | .type (some origin) _ _ => " in " ++ origin.text
    | _ => ""

/-- The error of a value inside another one. -/
def inside (step : Step) (e : ReadError) : ReadError := { e with place := step :: e.place }

end ReadError

/-! ### Leaves -/

/-- The text of a boolean. -/
def booleanText (b : Bool) : String := if b then "true" else "false"

/-- The text of an integer. -/
def integerText (i : Int) : String := String.ofList (Json.integerText i)

/-- A value where another type was expected. -/
def misfit (v : Configuration) (expected : String) : Misfit :=
  match v with
  | .scalar origin .nil => .type origin "unit value" expected
  | .scalar origin (.boolean b) =>
      .type origin ("boolean " ++ Text.backquoted (booleanText b)) expected
  | .scalar origin (.integer i) =>
      .type origin ("64-bit integer " ++ Text.backquoted (integerText i)) expected
  | .scalar origin (.real x) =>
      .type origin ("floating point " ++ Text.backquoted x.plainText) expected
  | .scalar origin (.text s) => .type origin ("string " ++ Text.quoted s) expected
  | .array origin _ => .type origin "sequence" expected
  | .table origin _ => .type origin "map" expected

/-- The text of a value: any scalar has one. -/
def readText : Configuration → Except Misfit String
  | .scalar _ (.text s) => .ok s
  | .scalar _ (.boolean b) => .ok (booleanText b)
  | .scalar _ (.integer i) => .ok (integerText i)
  | .scalar _ (.real x) => .ok x.plainText
  | v => .error (v.misfit "a string")

/-- The natural of a text of digits, if it fits 64 bits. -/
def naturalOfText? (s : String) : Option Nat :=
  let digits := match s.toList with
    | '+' :: digits => digits
    | digits => digits
  (Path.natural? digits).filter (· < 0x10000000000000000)

/-- The natural of a value below `2 ^ 64`. Reals are rounded, a half away from
    zero, and held within the range; words may stand for 1 and 0. -/
def readNatural (v : Configuration) : Except Misfit Nat :=
  match v with
  | .scalar _ (.integer i) =>
      if 0 ≤ i then .ok i.toNat else .error (v.misfit "an unsigned 64 bit or less integer")
  | .scalar _ (.real x) => .ok (x.clampNat 0xffffffffffffffff)
  | .scalar _ (.boolean b) => .ok b.toNat
  | .scalar _ (.text s) =>
      match Text.lowercase s, naturalOfText? s with
      | "true", _ | "on", _ | "yes", _ => .ok 1
      | "false", _ | "off", _ | "no", _ => .ok 0
      | _, some n => .ok n
      | _, none => .error (v.misfit "an integer")
  | v => .error (v.misfit "an integer")

/-- The natural of a value, or nothing. -/
def readOptional : Configuration → Except Misfit (Option Nat)
  | .scalar _ .nil => .ok none
  | v => (readNatural v).map some

/-- The boolean of a value: numbers other than zero are true. Texts are looked
    at, and shown, in lower case. -/
def readFlag (v : Configuration) : Except Misfit Bool :=
  match v with
  | .scalar _ (.boolean b) => .ok b
  | .scalar _ (.integer i) => .ok (i != 0)
  | .scalar _ (.real x) => .ok !x.isZero
  | .scalar origin (.text s) =>
      match Text.lowercase s with
      | "1" | "true" | "on" | "yes" => .ok true
      | "0" | "false" | "off" | "no" => .ok false
      | s => .error (misfit (.scalar origin (.text s)) "a boolean")
  | v => .error (v.misfit "a boolean")

/-- The choice that a text or the only key of a table names. -/
def readChoice {α : Type} (choices : String) (ofName? : String → Option α) (v : Configuration) :
    Except Misfit α :=
  let choose (name : String) : Except Misfit α :=
    match ofName? name with
    | some choice => .ok choice
    | none => .error (.unknownChoice choices name)
  match v with
  | .scalar _ (.text name) => choose name
  | .table _ (.cons name _ .nil) => choose name
  | _ => .error (.noChoice choices)

/-! ### Sections -/

/-- What a value is that is no section. -/
def sectionMisfit (s : Scalar) (name : String) : Misfit :=
  let found := match s with
    | .nil => "unit value"
    | .boolean b => "boolean " ++ Text.backquoted (booleanText b)
    | .integer i => "integer " ++ Text.backquoted (integerText i)
    | .real x => "floating point " ++ Text.backquoted x.pointedText
    | .text s => "string " ++ Text.quoted s
  .noSection found ("struct " ++ name)

/-- Checks that a value is a section: a table or an array. -/
def checkSection (v : Configuration) (name : String) : Except ReadError Unit :=
  match v with
  | .scalar _ s => .error ⟨[], sectionMisfit s name⟩
  | _ => .ok ()

/-- The field of a section: the entry of its name in a table, the item at its
    place in an array. -/
def field? (v : Configuration) (place : Nat) (name : String) : Option (Step × Configuration) :=
  match v with
  | .table _ es => (es.get? name).map (.key name, ·)
  | .array _ xs => xs.toList[place]?.map (.index place, ·)
  | .scalar _ _ => none

/-- Reads a field of a section; a missing one has its default. -/
def readSection {α : Type} (v : Configuration) (place : Nat) (name : String) (default : α)
    (read : Configuration → Except ReadError α) : Except ReadError α :=
  match v.field? place name with
  | none => .ok default
  | some (step, v) => (read v).mapError (·.inside step)

/-- Reads a leaf in a field of a section; a missing one has its default. -/
def readField {α : Type} (v : Configuration) (place : Nat) (name : String) (default : α)
    (read : Configuration → Except Misfit α) : Except ReadError α :=
  v.readSection place name default fun v => (read v).mapError fun m => ⟨[], m⟩

end Configuration

end PartyLine
