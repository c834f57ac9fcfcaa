import PartyLine.Json.Skipper
import PartyLine.Record

/-!
# Records read from their text

A record can also be read straight from a text, without the document in
between. Errors of shape then have a position, a field may not be given twice,
and members that are no fields are passed over.

* `Schema.parse`: the values of the fields of a text.
-/

namespace PartyLine

namespace Schema

/-- What is wrong with the text of a record. -/
inductive Problem where
  | grammar (problem : Json.Problem)
  | shape (error : ShapeError)
  deriving DecidableEq

/-- The wording of a problem. -/
def Problem.message : Problem → String
  | grammar p => p.message
  | shape e => e.message

/-- Why reading a record stops. An error of shape that is seen between the
    fields gets its place only when the end of the record has been looked for. -/
inductive Stop where
  | placed (fault : Json.Fault Problem)
  | unplaced (error : ShapeError) (rest : List Char)

/-- The outcome of reading a part of a record. -/
abbrev Reading := Except Stop

/-- A reader of JSON as a part of reading a record. -/
def ofOutcome {α : Type} : Json.Reader.Outcome α → Reading α
  | .ok a => .ok a
  | .error f => .error (.placed ⟨.grammar f.problem, f.unread⟩)

/-- The error that the value at the front of a text has another type. -/
def mismatch {α : Type} (expected : String) (s : List Char) : Reading α :=
  let wrong (found : Found) (rest : List Char) : Reading α :=
    .error (.placed ⟨.shape (.invalidType found expected), Json.byteCount rest⟩)
  match s with
  | '[' :: _ => wrong .sequence s
  | '\x7b' :: _ => wrong .map s
  | _ => do
      let (v, rest) ← ofOutcome (Json.Reader.scalar s)
      wrong (.ofJson v.toJson) rest

/-- A text from the front of a text. -/
def parseText (s : List Char) : Reading (String × List Char) :=
  match Json.Reader.skipBlanks s with
  | [] => ofOutcome (Json.Reader.failAt .endInValue [])
  | '"' :: r => ofOutcome (Json.Reader.string r)
  | s => mismatch FieldType.text.expectation s

/-- The value of a field from the front of a text, with so many levels of
    arrays and objects. -/
def parseField (levels : Nat) : (t : FieldType) → List Char → Reading (t.Carrier × List Char)
  | .text, s => parseText s
  | .flag, s =>
      match Json.Reader.skipBlanks s with
      | [] => ofOutcome (Json.Reader.failAt .endInValue [])
      | 't' :: r => do return (true, ← ofOutcome (Json.Reader.word ['r', 'u', 'e'] r))
      | 'f' :: r => do return (false, ← ofOutcome (Json.Reader.word ['a', 'l', 's', 'e'] r))
      | s => mismatch FieldType.flag.expectation s
  | .optionalText, s =>
      match Json.Reader.skipBlanks s with
      | 'n' :: r => do return (none, ← ofOutcome (Json.Reader.word ['u', 'l', 'l'] r))
      | s => do
          let (t, rest) ← parseText s
          return (some t, rest)
  | .anything, s => do
      let (v, rest) ← ofOutcome (Json.Reader.value levels s)
      return (.ofJson v, rest)

/-- The fields of an array after its bracket. -/
def parseItems (σ : Schema) (levels : Nat) : (fs : List Field) → (index : Nat) → List Char →
    Reading (Field.Values fs × List Char)
  | [], _, s => .ok ((), s)
  | f :: fs, index, s => do
      match ← ofOutcome (Json.Reader.nextItem (index == 0) s) with
      | .inl s =>
          let (v, s) ← parseField levels f.type s
          let (vs, s) ← parseItems σ levels fs (index + 1) s
          return ((v, vs), s)
      | .inr _ =>
          match f.absent with
          | some v => do
              let (vs, s) ← parseItems σ levels fs (index + 1) s
              return ((v, vs), s)
          | none => .error (.unplaced (.tooShort index σ.name σ.fields.length) s)

/-- The values of fields as far as they are known. -/
def Slots : List Field → Type
  | [] => Unit
  | f :: fs => Option f.type.Carrier × Slots fs

/-- No field is known. -/
def Slots.empty : (fs : List Field) → Slots fs
  | [] => ()
  | _ :: fs => (none, Slots.empty fs)

/-- All fields, those left out as they are when absent. -/
def Slots.values : (fs : List Field) → Slots fs → Except ShapeError (Field.Values fs)
  | [], _ => .ok ()
  | f :: fs, (slot, slots) =>
      match slot <|> f.absent with
      | some v => do return (v, ← Slots.values fs slots)
      | none => .error (.missingField f.name)

/-- Reads the value of the member `key` into its slot; nothing if it is no field. -/
def Slots.fill (levels : Nat) (key : String) (s : List Char) :
    (fs : List Field) → Slots fs → Option (Reading (Slots fs × List Char))
  | [], _ => none
  | f :: fs, (slot, slots) =>
      if f.name = key then
        match slot with
        | some _ => some (.error (.unplaced (.duplicateField key) s))
        | none => some do
            let s ← ofOutcome (Json.Reader.colon s)
            let (v, s) ← parseField levels f.type s
            return ((some v, slots), s)
      else
        (Slots.fill levels key s fs slots).map fun r => do
          let (slots, s) ← r
          return ((slot, slots), s)

/-- The members of an object after its brace, at most `fuel` of them. -/
def parseMembers (levels : Nat) (fs : List Field) : Nat → Bool → Slots fs → List Char →
    Reading (Slots fs × List Char)
  | 0, _, slots, s => .ok (slots, s)
  | fuel + 1, first, slots, s => do
      match ← ofOutcome (Json.Reader.nextKey first s) with
      | .inr _ => return (slots, s)
      | .inl (key, s) =>
          match slots.fill levels key s fs with
          | some r => do
              let (slots, s) ← r
              parseMembers levels fs fuel false slots s
          | none => do
              let s ← ofOutcome (Json.Reader.colon s)
              let s ← ofOutcome (Json.Reader.skipValue s)
              parseMembers levels fs fuel false slots s

/-- Ends a record at its closing bracket. -/
def closeList (s : List Char) : Json.Reader.Outcome (List Char) :=
  match Json.Reader.skipBlanks s with
  | [] => Json.Reader.failAt .endInList []
  | ']' :: r => .ok r
  | ',' :: r =>
      match Json.Reader.skipBlanks r with
      | ']' :: r => Json.Reader.failIn .trailingComma (']' :: r)
      | r => Json.Reader.failIn .trailingCharacters r
  | s => Json.Reader.failIn .trailingCharacters s

/-- What looking for the end of a list leaves unread. -/
def restOfList (s : List Char) : List Char :=
  match Json.Reader.skipBlanks s with
  | ']' :: r => r
  | ',' :: r => Json.Reader.skipBlanks r
  | s => s

/-- Ends a record at its closing brace. -/
def closeObject (s : List Char) : Json.Reader.Outcome (List Char) :=
  match Json.Reader.skipBlanks s with
  | [] => Json.Reader.failAt .endInObject []
  | '\x7d' :: r => .ok r
  | ',' :: r => Json.Reader.failIn .trailingComma (',' :: r)
  | s => Json.Reader.failIn .trailingCharacters s

/-- What looking for the end of an object leaves unread. -/
def restOfObject (s : List Char) : List Char :=
  match Json.Reader.skipBlanks s with
  | '\x7d' :: r => r
  | s => s

/-- Gives an error its place. -/
def Stop.place (restOf : List Char → List Char) : Stop → Json.Fault Problem
  | placed f => f
  | unplaced e rest => ⟨.shape e, Json.byteCount (restOf rest)⟩

/-- A record from the front of a text. -/
def parseValue (σ : Schema) (s : List Char) :
    Except (Json.Fault Problem) (σ.Values × List Char) :=
  let levels := Json.Reader.maxDepth - 1
  match Json.Reader.skipBlanks s with
  | [] => (ofOutcome (Json.Reader.failAt .endInValue [])).mapError (Stop.place id)
  | '[' :: r => (do
      let (vs, s) ← parseItems σ levels σ.fields 0 r
      return (vs, ← ofOutcome (closeList s))).mapError (Stop.place restOfList)
  | '\x7b' :: r => (do
      let (slots, s) ← parseMembers levels σ.fields (r.length + 1) true (.empty σ.fields) r
      match slots.values with
      | .ok vs => return (vs, ← ofOutcome (closeObject s))
      | .error e => .error (.unplaced e s)).mapError (Stop.place restOfObject)
  | s => (mismatch ("struct " ++ σ.name) s).mapError (Stop.place id)

/-- The fields of a record from a whole text, or the wording of what is wrong. -/
def parse (σ : Schema) (text : String) : Except String σ.Values :=
  let s := text.toList
  let r : Except (Json.Fault Problem) σ.Values := do
    let (vs, rest) ← parseValue σ s
    match Json.Reader.finish rest with
    | .ok () => return vs
    | .error f => .error ⟨.grammar f.problem, f.unread⟩
  r.mapError fun f => f.problem.message ++ (f.position s).suffix

end Schema

end PartyLine
