import PartyLine.Double
import PartyLine.Toml.Datetime

/-!
# TOML documents

A *document* is a table. Tables come about in several ways, by a header of their
own, on the way to another table, by a key with points or within braces, and how
a table came about decides what may still be added to it.

* `Toml.Entries.openTable?`, `Toml.Entries.openElement?`: what a header does;
* `Toml.Entries.assign?`: what a key with a value does, at a place in a document.
-/

namespace PartyLine

namespace Toml

/-- How a table came about. -/
inductive Form where
  /-- By a header of its own. -/
  | header
  /-- By the header of a table inside it. -/
  | passage
  /-- By a key with points. -/
  | dotted
  deriving DecidableEq

end Toml

mutual

/-- A value of a document. -/
inductive Toml where
  | string (value : String)
  | integer (value : Int)
  | float (value : ExtendedDouble)
  | boolean (value : Bool)
  | datetime (value : Toml.Datetime)
  /-- Items between brackets. -/
  | array (items : Toml.Items)
  /-- Entries between braces; nothing can be added to them. -/
  | inline (entries : Toml.Entries)
  | table (form : Toml.Form) (entries : Toml.Entries)
  /-- The tables of a repeated header, each a `table`. -/
  | tables (items : Toml.Items)

/-- Items of an array. -/
inductive Toml.Items where
  | nil
  | cons (head : Toml) (tail : Toml.Items)

/-- Entries of a table in the order of their keys' first appearance. -/
inductive Toml.Entries where
  | nil
  | cons (key : String) (value : Toml) (tail : Toml.Entries)

end

namespace Toml

instance : Inhabited Toml := ⟨.boolean false⟩

namespace Items

/-- The items of a list. -/
def ofList : List Toml → Items
  | [] => .nil
  | head :: tail => .cons head (ofList tail)

/-- The items with one more behind them. -/
def push (last : Toml) : Items → Items
  | .nil => .cons last .nil
  | .cons head tail => .cons head (tail.push last)

/-- Changes the last item, if that is possible. -/
def alterLast? (g : Toml → Option Toml) : Items → Option Items
  | .nil => none
  | .cons head .nil => (g head).map (.cons · .nil)
  | .cons head tail => (tail.alterLast? g).map (.cons head ·)

end Items

namespace Entries

/-- The value under a key. -/
def get? (key : String) : Entries → Option Toml
  | .nil => none
  | .cons k v tail => if k = key then some v else tail.get? key

/-- Sets the value under a key. -/
def put (key : String) (value : Toml) : Entries → Entries
  | .nil => .cons key value .nil
  | .cons k v tail => if k = key then .cons key value tail else .cons k v (tail.put key value)

/-- Changes the entries of the table under a key, or of the last of several. A
    missing table is made in the form `made`; a table of another than these
    forms is out of reach. -/
def enter? (made : Form) (allowed : Form → Bool) (key : String)
    (g : Form → Entries → Option Entries) (es : Entries) : Option Entries :=
  match es.get? key with
  | none => (g made .nil).map fun inner => es.put key (.table made inner)
  | some (.table form inner) =>
      if allowed form then (g form inner).map fun inner => es.put key (.table form inner) else none
  | some (.tables items) =>
      (items.alterLast? fun
        | .table form inner => (g form inner).map (.table form)
        | _ => none).map fun items => es.put key (.tables items)
  | some _ => none

/-- Changes the entries of the table that a header leads to, the tables on the
    way being made where they are missing. -/
def follow? (g : Entries → Option Entries) : List String → Entries → Option Entries
  | [], es => g es
  | key :: keys, es => es.enter? .passage (fun _ => true) key fun _ => follow? g keys

/-- Opens a table by its header. A table has one header at most, and none if
    keys with points made it. -/
def openTable? (key : String) (es : Entries) : Option Entries :=
  match es.get? key with
  | none => some (es.put key (.table .header .nil))
  | some (.table .passage inner) => some (es.put key (.table .header inner))
  | some _ => none

/-- Opens one more table by a repeated header. -/
def openElement? (key : String) (es : Entries) : Option Entries :=
  match es.get? key with
  | none => some (es.put key (.tables (.cons (.table .header .nil) .nil)))
  | some (.tables items) => some (es.put key (.tables (items.push (.table .header .nil))))
  | some _ => none

/-- Sets a new key. -/
def add? (key : String) (value : Toml) (es : Entries) : Option Entries :=
  if (es.get? key).isSome then none else some (es.put key value)

/-- Sets a key with points, which passes through tables made by such keys and
    adds to none that a header has made. -/
def assign? (value : Toml) : (names : List String) → (last : String) → Entries → Option Entries
  | [], last, es => es.add? last value
  | name :: names, last, es =>
      es.enter? .dotted (· ≠ .header) name fun form inner =>
        if names.isEmpty ∧ form ≠ .dotted then none else assign? value names last inner

end Entries

end Toml

end PartyLine
