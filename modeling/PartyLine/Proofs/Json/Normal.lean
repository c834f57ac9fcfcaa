import PartyLine.Json

/-!
# Normal forms

A document is in normal form when the members of its objects come in the order of their keys,
each key once. Bringing it into that form changes nothing then: members are put in from the last
to the first, and each finds its place at the front.

* `Members.insert_of_above`: a member before all others is put at the front;
* `normalize_of_normal`: normal documents stay as they are.
-/

namespace PartyLine

namespace Json

/-- A member whose key comes before all others is put at the front. -/
theorem Members.insert_of_above {key : String} {value : Json} {ms : Members}
    (h : ms.above key) : ms.insert key value = .cons key value ms := by
  cases ms with
  | nil => rfl
  | cons k v tail =>
    rw [above, Bool.and_eq_true, decide_eq_true_eq] at h
    rw [insert, if_pos h.1]

mutual

/-- A normal document is its own normal form. -/
theorem normalize_of_normal (v : Json) (h : v.normal) : v.normalize = v := by
  cases v with
  | null | bool b | number n | string s => rfl
  | array xs =>
    rw [normal] at h
    rw [normalize, Items.normalize_of_normal xs h]
  | object ms =>
    rw [normal] at h
    rw [normalize, Members.normalize_of_normal ms h]

theorem Items.normalize_of_normal (xs : Items) (h : xs.normal) : xs.normalize = xs := by
  cases xs with
  | nil => rfl
  | cons x xs =>
    rw [Items.normal, Bool.and_eq_true] at h
    rw [Items.normalize, Json.normalize_of_normal x h.1, Items.normalize_of_normal xs h.2]

theorem Members.normalize_of_normal (ms : Members) (h : ms.normal) : ms.normalize = ms := by
  cases ms with
  | nil => rfl
  | cons key x ms =>
    rw [Members.normal, Bool.and_eq_true, Bool.and_eq_true] at h
    rw [Members.normalize, Json.normalize_of_normal x h.1.2, Members.normalize_of_normal ms h.2,
      Members.insert_of_above h.1.1]

end

end Json

end PartyLine
