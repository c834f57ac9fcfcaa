import PartyLine.Json.Printer
import PartyLine.Text.Quoted

/-!
# Records

A *schema* names the fields of a record, their types and which of them may be
absent. It is read from what a JSON document means: from an object by the names
of the fields, other members being ignored, or from an array with the fields in
their order.

The schema is data, and reading is one function for all schemas, as the records of the engine differ
by nothing but their fields. Of an object, the members that are fields are checked in the order in
which they come, and the first that does not fit its type is the error; what is missing is found
out afterwards, in the order of the schema.

* `Schema.read`: the values of the fields of a payload;
* `ShapeError`: why a payload is no such record.
-/

namespace PartyLine

/-- What stands where something else was expected. -/
inductive Found where
  | null
  | bool (value : Bool)
  | integer (value : Int)
  | double (value : Double)
  | string (value : String)
  | sequence
  | map
  deriving DecidableEq

/-- What a document is found to be. -/
def Found.ofJson : Json → Found
  | .null => null
  | .bool b => bool b
  | .number (.integer i _) => integer i
  | .number (.double x) => double x
  | .string s => string s
  | .array _ => sequence
  | .object _ => map

/-- The wording of what was found. -/
def Found.message : Found → String
  | null => "null"
  | bool b => "boolean " ++ Text.backquoted (if b then "true" else "false")
  | integer i => "integer " ++ Text.backquoted (String.ofList (Json.integerText i))
  | double x => "floating point " ++ Text.backquoted (String.ofList (NumberStyle.json.write x))
  | string s => "string " ++ Text.quoted s
  | sequence => "sequence"
  | map => "map"

/-- The types of fields. -/
inductive FieldType where
  | text
  | flag
  | optionalText
  | anything
  deriving DecidableEq

namespace FieldType

/-- The values of a type of fields. -/
abbrev Carrier : FieldType → Type
  | text => String
  | flag => Bool
  | optionalText => Option String
  | anything => Payload

/-- The wording of what a field expects. -/
def expectation : FieldType → String
  | text | optionalText => "a string"
  | flag => "a boolean"
  | anything => "any valid JSON value"

end FieldType

/-- A field: its name, its type and, if it may be absent, its value then. -/
structure Field where
  name : String
  type : FieldType
  absent : Option type.Carrier := none

/-- The values of some fields, in their order. -/
def Field.Values : List Field → Type
  | [] => Unit
  | f :: fs => f.type.Carrier × Field.Values fs

/-- A record type: its name and its fields in order. -/
structure Schema where
  name : String
  fields : List Field

/-- The values of a record's fields. -/
abbrev Schema.Values (σ : Schema) : Type := Field.Values σ.fields

/-- Why a payload is no record of a schema. -/
inductive ShapeError where
  | invalidType (found : Found) (expected : String)
  | missingField (name : String)
  | duplicateField (name : String)
  | tooShort (count : Nat) (schema : String) (fields : Nat)
  | tooLong (count : Nat)
  deriving DecidableEq

/-- The wording of an error of shape. -/
def ShapeError.message : ShapeError → String
  | invalidType found expected =>
      "invalid type: " ++ found.message ++ ", expected " ++ expected
  | missingField name => "missing field " ++ Text.backquoted name
  | duplicateField name => "duplicate field " ++ Text.backquoted name
  | tooShort count schema fields =>
      "invalid length " ++ toString count ++ ", expected struct " ++ schema ++ " with " ++
        toString fields ++ (if fields = 1 then " element" else " elements")
  | tooLong count =>
      "invalid length " ++ toString count ++ ", expected fewer elements in array"

/-- The value of a field from what stands there. -/
def FieldType.read : (t : FieldType) → (v : Json) → v.normal → Except ShapeError t.Carrier
  | .text, .string s, _ => .ok s
  | .flag, .bool b, _ => .ok b
  | .optionalText, .null, _ => .ok none
  | .optionalText, .string s, _ => .ok (some s)
  | .anything, v, h => .ok ⟨v, h⟩
  | t, v, _ => .error (.invalidType (.ofJson v) t.expectation)

namespace Schema

/-- Reads the items of an array as the fields in their order. -/
def readItems (σ : Schema) : (fs : List Field) → (index : Nat) → (xs : Json.Items) →
    xs.normal → Except ShapeError (Field.Values fs × Nat)
  | [], _, xs, _ => .ok ((), xs.toList.length)
  | f :: fs, index, .nil, _ =>
      match f.absent with
      | some v => do
          let (vs, more) ← readItems σ fs (index + 1) .nil (by simp [Json.Items.normal])
          return ((v, vs), more)
      | none => .error (.tooShort index σ.name σ.fields.length)
  | f :: fs, index, .cons x xs, h => do
      have h : x.normal ∧ xs.normal := by simpa [Json.Items.normal] using h
      let v ← f.type.read x h.1
      let (vs, more) ← readItems σ fs (index + 1) xs h.2
      return ((v, vs), more)

/-- The field of that name. -/
def field? (fs : List Field) (name : String) : Option Field := fs.find? (·.name == name)

/-- Checks the members that are fields, in the order of the members. -/
def checkMembers (fs : List Field) : (ms : Json.Members) → ms.normal → Except ShapeError Unit
  | .nil, _ => .ok ()
  | .cons key v tail, h => do
      have h : v.normal ∧ tail.normal := by
        simp only [Json.Members.normal, Bool.and_eq_true] at h
        exact ⟨h.1.2, h.2⟩
      match field? fs key with
      | some f => discard (f.type.read v h.1)
      | none => pure ()
      checkMembers fs tail h.2

end Schema

/-- A member of that name is in normal form if all are. -/
theorem Json.Members.normal_of_get? {name : String} {v : Json} :
    {ms : Json.Members} → ms.normal → ms.get? name = some v → v.normal
  | .nil, _, h => by simp [Json.Members.get?] at h
  | .cons key value tail, hms, h => by
      simp only [Json.Members.normal, Bool.and_eq_true] at hms
      simp only [Json.Members.get?] at h
      split at h
      · simp only [Option.some.injEq] at h
        exact h ▸ hms.1.2
      · exact normal_of_get? hms.2 h

namespace Schema

/-- Reads the fields from the members of those names. -/
def readMembers : (fs : List Field) → (ms : Json.Members) → ms.normal →
    Except ShapeError (Field.Values fs)
  | [], _, _ => .ok ()
  | f :: fs, ms, h => do
      let v ← match hv : ms.get? f.name with
        | some v => f.type.read v (Json.Members.normal_of_get? h hv)
        | none =>
            match f.absent with
            | some v => .ok v
            | none => .error (.missingField f.name)
      let vs ← readMembers fs ms h
      return (v, vs)

/-- The fields of a record from a payload. Ill-typed members come before missing
    ones, and an array may be shorter only by fields that may be absent. -/
def read (σ : Schema) (p : Payload) : Except ShapeError σ.Values :=
  match h : p.document with
  | .array items => do
      let (vs, more) ← readItems σ σ.fields 0 items (by
        have := p.normal; rw [h, Json.normal] at this; exact this)
      if more = 0 then return vs else .error (.tooLong items.toList.length)
  | .object members =>
      have hm : members.normal := by
        have := p.normal; rw [h, Json.normal] at this; exact this
      do
        checkMembers σ.fields members hm
        readMembers σ.fields members hm
  | v => .error (.invalidType (.ofJson v) ("struct " ++ σ.name))

end Schema

end PartyLine
