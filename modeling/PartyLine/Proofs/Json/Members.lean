import PartyLine.Json

/-!
# Members by name

What an object means by a name is the value of its last member of that name: the normal form
keeps this one and no other. So it is at every place inside a document. Nor does the normal
form nest anything deeper than the document as it is written.

Bringing an object into normal form puts its members in from the last to the first, each unless its
name is there already. So the lookup commutes with it: what is put in first stays, and that is the
last member as the object is written. Places inside a document are sequences of names and
numbers, and the statement for them is the one for one name, over and over.

* `Members.last?`: the value of the last member of a name;
* `Members.get?_normalize`: it is what the normal form has under the name;
* `at?_normalize`: what stands at a place inside a normal form;
* `depth_normalize_le`: normal forms are no deeper.
-/

namespace PartyLine

namespace Json

namespace Members

/-- Members are added one after the other, at the front. -/
@[induction_eliminator]
theorem inductionOn {motive : Members → Prop} (nil : motive .nil)
    (cons : ∀ key value tail, motive tail → motive (.cons key value tail)) (ms : Members) :
    motive ms := by
  cases ms with
  | nil => exact nil
  | cons key value tail => exact cons key value tail (inductionOn nil cons tail)

/-- The value of the last member of that name. -/
def last? (name : String) : Members → Option Json
  | .nil => none
  | .cons key value tail => (tail.last? name).or (if key = name then some value else none)

/-- No member comes before a bound that all members come after. -/
theorem get?_eq_none_of_above {bound name : String} (hname : ¬bound < name) (ms : Members)
    (h : ms.above bound) : ms.get? name = none := by
  induction ms with
  | nil => rfl
  | cons key value tail ih =>
    simp only [above, Bool.and_eq_true, decide_eq_true_eq] at h
    have hkey : key ≠ name := by
      rintro rfl
      exact hname h.1
    rw [get?, if_neg hkey, ih h.2]

/-- The name of the first of some members in order is that of no other. -/
theorem get?_tail {key : String} {tail : Members} (h : tail.above key) : tail.get? key = none :=
  get?_eq_none_of_above (String.lt_irrefl key) tail h

/-- Under a name there is what was there before; only if there was nothing, what is added. -/
theorem get?_insert (key : String) (value : Json) (name : String) (ms : Members)
    (h : ms.normal) : (ms.insert key value).get? name =
      (ms.get? name).or (if key = name then some value else none) := by
  induction ms with
  | nil => rfl
  | cons k v tail ih =>
    simp only [normal, Bool.and_eq_true] at h
    obtain ⟨⟨habove, -⟩, htail⟩ := h
    rw [insert]
    split
    · next hlt =>
      have hcons : (cons k v tail).above key := by
        simp [above, hlt, above_of_lt hlt tail habove]
      rw [get?]
      split
      · next heq => rw [← heq, get?_tail hcons, Option.none_or]
      · rw [Option.or_none]
    · split
      · rw [get?, get?, ih htail]
        split <;> rfl
      · -- the keys are equal: what is there already stays
        next hnlt hngt =>
        obtain rfl : key = k := String.le_antisymm (String.not_lt.1 hngt) (String.not_lt.1 hnlt)
        rw [get?]
        split <;> simp

/-- The normal form of members has under each name what the last member of the name means. -/
theorem get?_normalize (name : String) (ms : Members) :
    ms.normalize.get? name = (ms.last? name).map Json.normalize := by
  induction ms with
  | nil => rfl
  | cons key value tail ih =>
    rw [normalize, get?_insert _ _ _ _ tail.normal_normalize, ih, last?]
    cases tail.last? name with
    | some v => rfl
    | none => split <;> rfl

/-- In a normal form a name has one member, which is the last. -/
theorem last?_of_normal (name : String) (ms : Members) (h : ms.normal) :
    ms.last? name = ms.get? name := by
  induction ms with
  | nil => rfl
  | cons key value tail ih =>
    simp only [normal, Bool.and_eq_true] at h
    obtain ⟨⟨habove, -⟩, htail⟩ := h
    rw [last?, get?, ih htail]
    split
    · next heq => rw [← heq, get?_tail habove, Option.none_or]
    · rw [Option.or_none]

/-- The value of a member is no deeper than all the members. -/
theorem depth_le_of_get? {name : String} {v : Json} {ms : Members} (h : ms.get? name = some v) :
    v.depth ≤ ms.depth := by
  induction ms with
  | nil => cases h
  | cons key value tail ih =>
    rw [get?] at h
    rw [depth]
    split at h
    · cases h
      exact Nat.le_max_left ..
    · exact Nat.le_trans (ih h) (Nat.le_max_right ..)

theorem depth_insert_le (key : String) (value : Json) (ms : Members) :
    (ms.insert key value).depth ≤ max value.depth ms.depth := by
  induction ms with
  | nil => exact Nat.le_refl _
  | cons k v tail ih =>
    rw [insert]
    split
    · exact Nat.le_refl _
    · split
      · simp only [depth]
        omega
      · exact Nat.le_max_right ..

end Members

/-! ## Places -/

/-- A step from a document to one inside it. -/
inductive Place where
  | item (index : Nat)
  | member (name : String)

/-- What stands at a place inside a document, where the last member of a name counts. -/
def at? : List Place → Json → Option Json
  | [], v => some v
  | .item i :: path, .array xs => (xs.toList[i]?).bind (at? path)
  | .member name :: path, .object ms => (ms.last? name).bind (at? path)
  | _ :: _, _ => none

theorem Items.toList_normalize (xs : Items) :
    xs.normalize.toList = xs.toList.map Json.normalize := by
  cases xs with
  | nil => rfl
  | cons x xs => rw [normalize, toList, toList, toList_normalize xs, List.map_cons]

/-- Inside a normal form stands what is meant by what stands there. -/
theorem at?_normalize (path : List Place) (v : Json) :
    v.normalize.at? path = (v.at? path).map normalize := by
  induction path generalizing v with
  | nil => rfl
  | cons place path ih =>
    cases v with
    | null | bool | number | string => cases place <;> rfl
    | array xs =>
      cases place with
      | member name => rfl
      | item i =>
        rw [normalize, at?, at?, Items.toList_normalize, List.getElem?_map]
        cases xs.toList[i]? with
        | none => rfl
        | some x => exact ih x
    | object ms =>
      cases place with
      | item i => rfl
      | member name =>
        rw [normalize, at?, at?, Members.last?_of_normal _ _ ms.normal_normalize,
          Members.get?_normalize]
        cases ms.last? name with
        | none => rfl
        | some x => exact ih x

/-! ## Depth -/

mutual

/-- The normal form of a document is no deeper than the document. -/
theorem depth_normalize_le : (v : Json) → v.normalize.depth ≤ v.depth
  | .array xs => by
      simp only [normalize, depth]
      exact Nat.succ_le_succ (Items.depth_normalize_le xs)
  | .object ms => by
      simp only [normalize, depth]
      exact Nat.succ_le_succ (Members.depth_normalize_le ms)
  | .null | .bool _ | .number _ | .string _ => Nat.le_refl _

theorem Items.depth_normalize_le : (xs : Items) → xs.normalize.depth ≤ xs.depth
  | .nil => Nat.le_refl _
  | .cons x xs => by
      have hx := Json.depth_normalize_le x
      have hxs := Items.depth_normalize_le xs
      simp only [Items.normalize, Items.depth]
      omega

theorem Members.depth_normalize_le : (ms : Members) → ms.normalize.depth ≤ ms.depth
  | .nil => Nat.le_refl _
  | .cons key v ms => by
      have hv := Json.depth_normalize_le v
      have hms := Members.depth_normalize_le ms
      have hinsert := Members.depth_insert_le key v.normalize ms.normalize
      simp only [Members.normalize, Members.depth]
      omega

end

end Json

end PartyLine
