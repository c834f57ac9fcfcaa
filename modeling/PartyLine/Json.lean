import PartyLine.Double

/-!
# JSON documents

A *document* is the syntax tree of a JSON text, its members in the order in
which they are written. What a document *means* is its normal form: the members
of every object in increasing order of their keys, and of several members with
one key only the last.

The two are kept apart because a frame is a text of a document, spelled and ordered as its writer
likes, while an envelope carries what the document means: two envelopes are equal if their data mean
the same. Whole numbers that fit 64 bits stay whole, and all other numbers are doubles.

* `Json.normalize`: the normal form, `Json.normal_normalize`;
* `Payload`: a document in normal form; two payloads are equal exactly when
  they mean the same;
* `Json.depth`: how deeply arrays and objects are nested.
-/

namespace PartyLine

/-- A number of a document: a whole number that fits 64 bits, signed if it is
    negative and unsigned if not, or a double. -/
inductive Json.Number where
  | integer (value : Int) (fits : -0x8000000000000000 ≤ value ∧ value < 0x10000000000000000)
  | double (value : Double)
  deriving DecidableEq

mutual

/-- A JSON document as it is written. -/
inductive Json where
  | null
  | bool (value : Bool)
  | number (value : Json.Number)
  | string (value : String)
  | array (items : Json.Items)
  | object (members : Json.Members)

/-- The items of an array. -/
inductive Json.Items where
  | nil
  | cons (head : Json) (tail : Json.Items)

/-- The members of an object in the order in which they are written. -/
inductive Json.Members where
  | nil
  | cons (key : String) (value : Json) (tail : Json.Members)

end

deriving instance DecidableEq for Json, Json.Items, Json.Members

namespace Json

instance : Inhabited Json := ⟨.null⟩

namespace Items

/-- The items as a list. -/
def toList : Items → List Json
  | .nil => []
  | .cons head tail => head :: tail.toList

/-- The items of a list. -/
def ofList : List Json → Items
  | [] => .nil
  | head :: tail => .cons head (ofList tail)

@[simp] theorem toList_ofList (xs : List Json) : (ofList xs).toList = xs := by
  induction xs with
  | nil => rfl
  | cons x xs ih => simp [ofList, toList, ih]

@[simp] theorem ofList_toList : (xs : Items) → ofList xs.toList = xs
  | .nil => rfl
  | .cons head tail => by simp [ofList, toList, ofList_toList tail]

end Items

namespace Members

/-- The members as a list of pairs. -/
def toList : Members → List (String × Json)
  | .nil => []
  | .cons key value tail => (key, value) :: tail.toList

/-- The members of a list of pairs. -/
def ofList : List (String × Json) → Members
  | [] => .nil
  | (key, value) :: tail => .cons key value (ofList tail)

@[simp] theorem toList_ofList (ms : List (String × Json)) : (ofList ms).toList = ms := by
  induction ms with
  | nil => rfl
  | cons m ms ih => simp [ofList, toList, ih]

@[simp] theorem ofList_toList : (ms : Members) → ofList ms.toList = ms
  | .nil => rfl
  | .cons key value tail => by simp [ofList, toList, ofList_toList tail]

/-- The value of the first member of that name. -/
def get? (name : String) : Members → Option Json
  | .nil => none
  | .cons key value tail => if key = name then some value else tail.get? name

/-- Adds a member to members in order, unless its key is there already. -/
def insert (key : String) (value : Json) : Members → Members
  | .nil => .cons key value .nil
  | .cons k v tail =>
      if key < k then .cons key value (.cons k v tail)
      else if k < key then .cons k v (tail.insert key value)
      else .cons k v tail

end Members

mutual

/-- The nesting of arrays and objects: 0 for a value that is neither. -/
def depth : Json → Nat
  | .array items => items.depth + 1
  | .object members => members.depth + 1
  | _ => 0

/-- The greatest depth of an item. -/
def Items.depth : Items → Nat
  | .nil => 0
  | .cons head tail => max head.depth tail.depth

/-- The greatest depth of a member's value. -/
def Members.depth : Members → Nat
  | .nil => 0
  | .cons _ value tail => max value.depth tail.depth

end

mutual

/-- The normal form: keys in increasing order, of equal keys the last. -/
def normalize : Json → Json
  | .array items => .array items.normalize
  | .object members => .object members.normalize
  | v => v

/-- Every item in normal form. -/
def Items.normalize : Items → Items
  | .nil => .nil
  | .cons head tail => .cons head.normalize tail.normalize

/-- Members from the last to the first, each added unless its key is there. -/
def Members.normalize : Members → Members
  | .nil => .nil
  | .cons key value tail => tail.normalize.insert key value.normalize

end

/-- Whether every key of `members` comes after `key`. -/
def Members.above (key : String) : Members → Bool
  | .nil => true
  | .cons k _ tail => decide (key < k) && tail.above key

mutual

/-- Whether all objects have their keys in strictly increasing order. -/
def normal : Json → Bool
  | .array items => items.normal
  | .object members => members.normal
  | _ => true

/-- Whether every item is in normal form. -/
def Items.normal : Items → Bool
  | .nil => true
  | .cons head tail => head.normal && tail.normal

/-- Whether the keys increase strictly and every value is in normal form. -/
def Members.normal : Members → Bool
  | .nil => true
  | .cons key value tail => tail.above key && value.normal && tail.normal

end

namespace Members

theorem above_insert {bound key : String} {value : Json} :
    (ms : Members) → bound < key → ms.above bound → (ms.insert key value).above bound
  | .nil, h, _ => by simp [insert, above, h]
  | .cons k v tail, h, hms => by
      simp only [above, Bool.and_eq_true, decide_eq_true_eq] at hms
      unfold insert
      split
      · simp [above, h, hms]
      · split
        · simp [above, hms.1, above_insert tail h hms.2]
        · simp [above, hms]

theorem above_of_lt {low high : String} (h : low < high) :
    (ms : Members) → ms.above high → ms.above low
  | .nil, _ => rfl
  | .cons k _ tail, hms => by
      simp only [above, Bool.and_eq_true, decide_eq_true_eq] at hms ⊢
      exact ⟨String.lt_trans h hms.1, above_of_lt h tail hms.2⟩

theorem normal_insert {key : String} {value : Json} (hv : value.normal) :
    (ms : Members) → ms.normal → (ms.insert key value).normal
  | .nil, _ => by simp [insert, normal, above, hv]
  | .cons k v tail, hms => by
      simp only [normal, Bool.and_eq_true] at hms
      unfold insert
      split
      · rename_i h
        simp [normal, above, h, hv, hms, above_of_lt h tail hms.1.1]
      · split
        · rename_i h
          simp [normal, above_insert tail h hms.1.1, hms.1.2, normal_insert hv tail hms.2]
        · simp [normal, hms]

end Members

mutual

theorem normal_normalize : (v : Json) → v.normalize.normal
  | .array items => by simp only [normalize, normal]; exact items.normal_normalize
  | .object members => by simp only [normalize, normal]; exact members.normal_normalize
  | .null | .bool _ | .number _ | .string _ => by simp [normalize, normal]

theorem Items.normal_normalize : (xs : Items) → xs.normalize.normal
  | .nil => by simp [Items.normalize, Items.normal]
  | .cons head tail => by
      simp [Items.normalize, Items.normal, head.normal_normalize, tail.normal_normalize]

theorem Members.normal_normalize : (ms : Members) → ms.normalize.normal
  | .nil => by simp [Members.normalize, Members.normal]
  | .cons _ value tail => by
      simp only [Members.normalize]
      exact Members.normal_insert value.normal_normalize _ tail.normal_normalize

end

end Json

/-- What a JSON document means: a document in normal form. -/
structure Payload where
  document : Json
  normal : document.normal := by decide
  deriving DecidableEq

namespace Payload

/-- What a document means. -/
def ofJson (v : Json) : Payload := ⟨v.normalize, v.normal_normalize⟩

/-- The payload without content. -/
def null : Payload := ⟨.null, by simp [Json.normal]⟩

/-- A text. -/
def string (s : String) : Payload := ⟨.string s, by simp [Json.normal]⟩

instance : Inhabited Payload := ⟨null⟩

end Payload

end PartyLine
