import PartyLine.Configuration
import PartyLine.Json.Reader
import PartyLine.Toml.Reader

/-!
# Configuration files

A configuration file is TOML or JSON, as the extension of its name says. A path
without extension leads to the file with a known one.

* `Configuration.Directory.find`: the file that a path leads to;
* `Configuration.Directory.load`: its contents, as a layer;
* `Configuration.Arrangement`: an order in which the entries of a layer are taken.
-/

namespace PartyLine

namespace Configuration

/-- The formats of files. -/
inductive Format where
  | toml
  | json
  deriving DecidableEq

namespace Format

/-- The extension of a format's files. -/
def extension : Format → String
  | toml => "toml"
  | json => "json"

/-- All formats, in the order in which their extensions are tried. -/
def all : List Format := [toml, json]

end Format

/-- Why there is nothing to load. -/
inductive FileError where
  | notFound (path : String)
  /-- The file's full path. -/
  | unknownFormat (path : String)
  /-- The file is not of the grammar of its format, or is no table. -/
  | unreadable (file : String)
  deriving DecidableEq

/-- The wording of an error. -/
def FileError.message : FileError → String
  | notFound path => "configuration file \"" ++ path ++ "\" not found"
  | unknownFormat path =>
      "configuration file \"" ++ path ++ "\" is not of a supported file format"
  | unreadable file => file ++ " cannot be read"

/-! ### Values -/

mutual

/-- The value of a JSON document from a file. -/
def ofJson (origin : Option Origin) : Json → Configuration
  | .null => .scalar origin .nil
  | .bool b => .scalar origin (.boolean b)
  | .number (.integer i _) => .scalar origin (.integer i)
  | .number (.double x) => .scalar origin (.real (.finite x))
  | .string s => .scalar origin (.text s)
  | .array items => .array origin (itemsOfJson origin items)
  | .object members => .table origin (entriesOfJson origin members)

/-- The items of a JSON array. -/
def itemsOfJson (origin : Option Origin) : Json.Items → Items
  | .nil => .nil
  | .cons head tail => .cons (ofJson origin head) (itemsOfJson origin tail)

/-- The members of a JSON object. -/
def entriesOfJson (origin : Option Origin) : Json.Members → Entries
  | .nil => .nil
  | .cons key value tail => .cons key (ofJson origin value) (entriesOfJson origin tail)

end

mutual

/-- The value of a TOML value from a file; a moment counts as its text. -/
def ofToml (origin : Option Origin) : Toml → Configuration
  | .string s => .scalar origin (.text s)
  | .integer i => .scalar origin (.integer i)
  | .float x => .scalar origin (.real x)
  | .boolean b => .scalar origin (.boolean b)
  | .datetime m => .scalar origin (.text m.text)
  | .array items | .tables items => .array origin (itemsOfToml origin items)
  | .inline entries | .table _ entries => .table origin (entriesOfToml origin entries)

/-- The items of a TOML array. -/
def itemsOfToml (origin : Option Origin) : Toml.Items → Items
  | .nil => .nil
  | .cons head tail => .cons (ofToml origin head) (itemsOfToml origin tail)

/-- The entries of a TOML table. -/
def entriesOfToml (origin : Option Origin) : Toml.Entries → Entries
  | .nil => .nil
  | .cons key value tail => .cons key (ofToml origin value) (entriesOfToml origin tail)

end

/-- The entries of a file with a text, if it is a table in its format. -/
def Format.parse? (format : Format) (file text : String) : Option Entries :=
  let origin := some (Origin.file file)
  match format with
  | .toml => (Toml.parse? text).map (entriesOfToml origin)
  | .json =>
      match Payload.parse text with
      | .ok ⟨.object members, _⟩ => some (entriesOfJson origin members)
      | _ => none

/-! ### Files -/

/-- An order in which the entries of a file are taken. To a loader they are a map without order,
    which it has of its own and takes as it comes: by no rule, and another time in another order. -/
structure Arrangement where
  order : List (String × Configuration) → List (String × Configuration)
  perm : ∀ layer, (order layer).Perm layer

/-- The entries as the file lists them. -/
def Arrangement.listed : Arrangement where
  order := id
  perm := .refl

/-- A directory: its path, and the files in it with their texts. -/
structure Directory where
  path : String
  files : List (String × String)

/-- A file that was found. -/
structure File where
  name : String
  format : Format
  text : String

/-- The parts of a path between its slashes. -/
def parts (path : String) : List String := (path.toList.splitOn '/').map String.ofList

/-- The names along a path, without those that lead nowhere. -/
def names (path : String) : List String :=
  (parts path).filter fun n => n != "" && n != "."

/-- The names along a path with each step back taken; none if it leaves the start. -/
def resolve? (names : List String) : Option (List String) :=
  names.foldlM (fun walked n =>
    if n = ".." then (if walked.isEmpty then none else some walked.dropLast)
    else some (walked ++ [n])) []

/-- The extension of a file's name: what follows its last point, unless the
    point starts the name. -/
def extension? (name : String) : Option String :=
  let front := (name.toList.reverse.dropWhile (· != '.')).drop 1
  if front.isEmpty then none
  else some (String.ofList (name.toList.reverse.takeWhile (· != '.')).reverse)

namespace Directory

/-- The text of the file at a path inside the directory. -/
def text? (d : Directory) (path : String) : Option String :=
  if path.startsWith "/" ∨ path.endsWith "/" then none
  else (resolve? (names path)).bind fun walked => d.files.lookup ("/".intercalate walked)

/-- Whether a path ends in a name that an extension can be added to. -/
def endsInName (path : String) : Bool :=
  (parts path).getLast?.elim false fun n => n != "" && n != "." && n != ".."

/-- The file that a path leads to: the one there, whose extension says its
    format, or else the first one there with a known extension added. -/
def find (d : Directory) (path : String) : Except FileError File :=
  let file (path : String) (format : Format) (text : String) : File :=
    { name := "/".intercalate (names path), format, text }
  match d.text? path with
  | some text =>
      let extension := ((names path).getLast?.bind extension?).getD ""
      match Format.all.find? (·.extension == extension) with
      | some format => .ok (file path format text)
      | none => .error (.unknownFormat (d.path ++ "/" ++ path))
  | none =>
      let found := Format.all.findSome? fun format =>
        let path := path ++ "." ++ format.extension
        (d.text? path).map (file path format)
      match found.filter fun _ => endsInName path with
      | some f => .ok f
      | none => .error (.notFound path)

/-- The text of a file without the mark of its encoding. -/
def withoutMark (text : String) : String :=
  match text.toList with
  | '\ufeff' :: s => String.ofList s
  | _ => text

/-- The entries of a file, as it lists them. -/
def read (f : File) : Except FileError (List (String × Configuration)) :=
  match f.format.parse? f.name (withoutMark f.text) with
  | some es => .ok es.toList
  | none => .error (.unreadable f.name)

/-- The layer of the file that a path leads to. -/
def load (d : Directory) (path : String) : Except FileError (List (String × Configuration)) :=
  d.find path >>= read

/-- The layer of the file that a path leads to; empty if there is no such file. -/
def loadIfThere (d : Directory) (path : String) :
    Except FileError (List (String × Configuration)) :=
  match d.find path with
  | .ok f => read f
  | .error _ => .ok []

end Directory

end Configuration

end PartyLine
