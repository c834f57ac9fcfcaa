import PartyLine.Double

/-!
# Configurations

A *configuration* is a tree of tables and arrays with scalars at its leaves, as
files and the environment give it before anything is known of its meaning. Every
value keeps where it comes from, for the errors found in it later.

A place inside the tree is a path of keys and of indices, which may count from the end of an array.
What is not on the way is made: a table or an array where there is none, also in the place of a
scalar, and as many items as the index asks for. So an overlay never fails, and the order in which
overlays are made may matter where one is in the way of another.

* `Configuration.laidOver`: a configuration laid over another; tables merge entry
  by entry, everything else replaces what was there;
* `Configuration.assign`: an overlay at a place inside the tree.
-/

namespace PartyLine

namespace Configuration

/-- Where a value comes from. -/
inductive Origin where
  | file (name : String)
  | environment
  deriving DecidableEq

/-- The wording of an origin. -/
def Origin.text : Origin → String
  | file name => name
  | environment => "the environment"

/-- A value that is neither a table nor an array. -/
inductive Scalar where
  | nil
  | boolean (value : Bool)
  | integer (value : Int)
  | real (value : ExtendedDouble)
  | text (value : String)
  deriving DecidableEq

end Configuration

mutual

/-- A tree of values. -/
inductive Configuration where
  | scalar (origin : Option Configuration.Origin) (value : Configuration.Scalar)
  | array (origin : Option Configuration.Origin) (items : Configuration.Items)
  | table (origin : Option Configuration.Origin) (entries : Configuration.Entries)

/-- The items of an array. -/
inductive Configuration.Items where
  | nil
  | cons (head : Configuration) (tail : Configuration.Items)

/-- The entries of a table. They are listed as their keys were first set, but their order has no
    meaning: what is read from a table is read by its keys, and whoever lays the entries of a file
    over a configuration takes them in an order of its own. -/
inductive Configuration.Entries where
  | nil
  | cons (key : String) (value : Configuration) (tail : Configuration.Entries)

end

namespace Configuration

deriving instance DecidableEq for Configuration, Configuration.Items, Configuration.Entries

/-- Nothing, from nowhere. -/
def nothing : Configuration := .scalar none .nil

instance : Inhabited Configuration := ⟨nothing⟩

namespace Items

/-- The items as a list. -/
def toList : Items → List Configuration
  | .nil => []
  | .cons head tail => head :: tail.toList

/-- The items of a list. -/
def ofList : List Configuration → Items
  | [] => .nil
  | head :: tail => .cons head (ofList tail)

@[simp] theorem toList_ofList (xs : List Configuration) : (ofList xs).toList = xs := by
  induction xs with
  | nil => rfl
  | cons head tail ih => rw [ofList, toList, ih]

end Items

namespace Entries

/-- The entries as a list of pairs. -/
def toList : Entries → List (String × Configuration)
  | .nil => []
  | .cons key value tail => (key, value) :: tail.toList

/-- The value under a key. -/
def get? (key : String) : Entries → Option Configuration
  | .nil => none
  | .cons k v tail => if k = key then some v else tail.get? key

/-- Changes the value under a key, which is `nothing` if there is none. -/
def alter (key : String) (g : Configuration → Configuration) : Entries → Entries
  | .nil => .cons key (g nothing) .nil
  | .cons k v tail => if k = key then .cons k (g v) tail else .cons k v (tail.alter key g)

/-- Sets the value under a key. -/
def put (key : String) (value : Configuration) (es : Entries) : Entries :=
  es.alter key fun _ => value

theorem get?_alter_self (key : String) (g : Configuration → Configuration) :
    (es : Entries) → (es.alter key g).get? key = some (g ((es.get? key).getD nothing))
  | .nil => by simp [alter, get?]
  | .cons k v tail => by
      by_cases h : k = key
      · simp [alter, get?, h]
      · simp [alter, get?, h, get?_alter_self key g tail]

theorem get?_alter_of_ne {key other : String} (h : other ≠ key)
    (g : Configuration → Configuration) :
    (es : Entries) → (es.alter key g).get? other = es.get? other
  | .nil => by simp [alter, get?, h.symm]
  | .cons k v tail => by
      by_cases hk : k = key
      · subst hk
        simp [alter, get?, h.symm]
      · by_cases ho : k = other
        · simp [alter, get?, ho, h]
        · simp [alter, get?, hk, ho, get?_alter_of_ne h g tail]

end Entries

/-- The entries of a table; none of anything else. -/
def entries : Configuration → Entries
  | .table _ es => es
  | _ => .nil

/-- Where a table comes from; from nowhere for anything else. -/
def tableOrigin : Configuration → Option Origin
  | .table origin _ => origin
  | _ => none

/-- The items of an array; none of anything else. -/
def items : Configuration → Items
  | .array _ xs => xs
  | _ => .nil

/-- Where an array comes from; from nowhere for anything else. -/
def arrayOrigin : Configuration → Option Origin
  | .array origin _ => origin
  | _ => none

mutual

/-- A configuration over another: the entries of a table are laid over those of
    the table below, one by one; all else takes the place of what is below. -/
def laidOver : Configuration → (below : Configuration) → Configuration
  | .table _ es, below => .table below.tableOrigin (es.laidOver below.entries)
  | .scalar origin value, _ => .scalar origin value
  | .array origin xs, _ => .array origin xs

/-- Entries over others. -/
def Entries.laidOver : Entries → (below : Entries) → Entries
  | .nil, below => below
  | .cons key value tail, below => tail.laidOver (below.alter key fun old => value.laidOver old)

end

/-- A step from a value to one inside it. -/
inductive Step where
  | key (name : String)
  /-- A place in an array; negative ones count from its end. -/
  | index (place : Int)
  deriving DecidableEq

/-- Changes the item at a place. Places beyond the end are filled up with
    nothing; places before the start push the items back. -/
def alterAt (place : Int) (g : Configuration → Configuration) (xs : List Configuration) :
    List Configuration :=
  let i := if 0 ≤ place then place else place + xs.length
  if 0 ≤ i then
    (xs ++ List.replicate (i.toNat + 1 - xs.length) nothing).modify i.toNat g
  else
    g nothing :: List.replicate (i.natAbs - 1) nothing ++ xs

/-- Changes the value at the end of some steps. Whatever is in the way of a step
    makes place for a table or an array. -/
def alter (g : Configuration → Configuration) : List Step → Configuration → Configuration
  | [], v => g v
  | .key name :: rest, v => .table v.tableOrigin (v.entries.alter name (alter g rest))
  | .index place :: rest, v =>
      .array v.arrayOrigin (.ofList (alterAt place (alter g rest) v.items.toList))

/-- Lays a value over what is at the end of some steps. -/
def assign (below : Configuration) (steps : List Step) (value : Configuration) : Configuration :=
  alter (fun old => value.laidOver old) steps below

end Configuration

end PartyLine
