import PartyLine.Proofs.Json.Members
import PartyLine.Record

/-!
# Reading records

The members of an object are checked one after the other before any is read. The check fails
for nothing but a field that is ill-typed: members that are no fields pass, wherever they
stand.

Of fields that are checked, the first is read apart from the rest: members are looked up by its
name, an absent one may have a value to stand for it, and what is left is read for the other
fields. So acceptance is a relation by recursion over the fields (`TakesMembers`, `TakesItems`), and
is proved to be that of the readers by the same recursion, for objects and for arrays. Schemas
have distinct names, which is why the members read for one field are not those of another.

* `checkMembers_eq_ok`: the check, where every field that is there can be read;
* `checkMembers_eq_error`: the check, where all but one can;
* `readMembers_present`, `readMembers_default`, `readMembers_missing`: what is read for the
  first of some fields;
* `read_eq_ok_iff`: what a record of any schema is read from, objects and arrays.
-/

namespace PartyLine

namespace Schema

variable {fs : List Field} {key : String} {x : Json} {tail : Json.Members}

/-- A field of a later member is not the one of the first. -/
theorem get?_cons_of_tail {name : String} {v : Json} (h : (Json.Members.cons key x tail).normal)
    (hv : tail.get? name = some v) :
    key ≠ name ∧ (Json.Members.cons key x tail).get? name = some v := by
  simp only [Json.Members.normal, Bool.and_eq_true] at h
  obtain ⟨⟨habove, -⟩, -⟩ := h
  have hne : key ≠ name := by
    rintro rfl
    rw [Json.Members.get?_tail habove] at hv
    cases hv
  exact ⟨hne, by rw [Json.Members.get?, if_neg hne, hv]⟩

/-- The check of the first member, and then of the others. -/
theorem checkMembers_cons (h : (Json.Members.cons key x tail).normal) (hx : x.normal)
    (htail : tail.normal) : checkMembers fs (.cons key x tail) h = (do
      match field? fs key with
      | some f => discard (f.type.read x hx)
      | none => pure ()
      checkMembers fs tail htail) := rfl

theorem mem_of_field? {f : Field} (h : field? fs key = some f) : f ∈ fs ∧ f.name = key :=
  ⟨List.mem_of_find?_eq_some h, by simpa using List.find?_some h⟩

/-- The check passes if every field that is there can be read. -/
theorem checkMembers_eq_ok {ms : Json.Members} (h : ms.normal)
    (hread : ∀ f ∈ fs, ∀ v hv, ms.get? f.name = some v → ∃ y, f.type.read v hv = .ok y) :
    checkMembers fs ms h = .ok () := by
  induction ms with
  | nil => rfl
  | cons key x tail ih =>
    have hparts := h
    simp only [Json.Members.normal, Bool.and_eq_true] at hparts
    have hrest := ih hparts.2 fun f hf v hv htail =>
      hread f hf v hv (get?_cons_of_tail h htail).2
    rw [checkMembers_cons h hparts.1.2 hparts.2]
    split
    · next f hf =>
      -- the first member is a field, and is read under its own name
      obtain ⟨hmem, hname⟩ := mem_of_field? hf
      obtain ⟨y, hy⟩ := hread f hmem x hparts.1.2 (by rw [Json.Members.get?, if_pos hname.symm])
      rw [hy]
      exact hrest
    · exact hrest

/-- The check fails with the error of a field if all others that are there can be read. -/
theorem checkMembers_eq_error {ms : Json.Members} (h : ms.normal) {f : Field} {v : Json}
    {e : ShapeError} (hf : field? fs f.name = some f) (hv : ms.get? f.name = some v)
    (hnormal : v.normal) (he : f.type.read v hnormal = .error e)
    (hread : ∀ f' ∈ fs, f'.name ≠ f.name → ∀ v hv, ms.get? f'.name = some v →
      ∃ y, f'.type.read v hv = .ok y) :
    checkMembers fs ms h = .error e := by
  induction ms with
  | nil => cases hv
  | cons key x tail ih =>
    have hparts := h
    simp only [Json.Members.normal, Bool.and_eq_true] at hparts
    rw [checkMembers_cons h hparts.1.2 hparts.2]
    rw [Json.Members.get?] at hv
    split at hv
    · -- the field is that of the first member
      next hkey =>
      cases hv
      subst hkey
      simp only [hf, he]
      rfl
    · next hkey =>
      have hrest := ih hparts.2 hv fun f' hf' hne v' hv' htail =>
        hread f' hf' hne v' hv' (get?_cons_of_tail h htail).2
      split
      · next f' hf' =>
        obtain ⟨hmem, hname⟩ := mem_of_field? hf'
        obtain ⟨y, hy⟩ := hread f' hmem (fun heq => hkey (hname.symm.trans heq)) x hparts.1.2
          (by rw [Json.Members.get?, if_pos hname.symm])
        rw [hy]
        exact hrest
      · exact hrest

variable {f : Field} {ms : Json.Members}

/-- A field that is there is read. -/
theorem readMembers_present (h : ms.normal) {v : Json} (hnormal : v.normal) {y : f.type.Carrier}
    (hv : ms.get? f.name = some v) (hy : f.type.read v hnormal = .ok y) :
    readMembers (f :: fs) ms h = (readMembers fs ms h).map fun ys => (y, ys) := by
  rw [readMembers]
  split
  · next v' hv' =>
    obtain rfl := Option.some.inj (hv'.symm.trans hv)
    rw [hy]
    cases readMembers fs ms h <;> rfl
  · next hnone => simp [hv] at hnone

/-- A field that is not there has the value that it has then. -/
theorem readMembers_default (h : ms.normal) {y : f.type.Carrier} (hv : ms.get? f.name = none)
    (hy : f.absent = some y) :
    readMembers (f :: fs) ms h = (readMembers fs ms h).map fun ys => (y, ys) := by
  rw [readMembers]
  split
  · next hsome => simp [hv] at hsome
  · simp only [hy]
    cases readMembers fs ms h <;> rfl

/-- A field that must be there is missed. -/
theorem readMembers_missing (h : ms.normal) (hv : ms.get? f.name = none)
    (hnone : f.absent = none) : readMembers (f :: fs) ms h = .error (.missingField f.name) := by
  rw [readMembers]
  split
  · next hsome => simp [hv] at hsome
  · simp only [hnone]
    rfl

end Schema

/-! ## What records are read from -/

/-- The values that a field may have of what stands in its place, if anything does. -/
def Field.Takes (f : Field) : Option Json → f.type.Carrier → Prop
  | some v, y => ∃ hv : v.normal, f.type.read v hv = .ok y
  | none, y => f.absent = some y

/-- What stands there must be read as the value. -/
theorem Field.takes_some {f : Field} {v : Json} (hv : v.normal) {y : f.type.Carrier} :
    f.Takes (some v) y ↔ f.type.read v hv = .ok y :=
  ⟨fun ⟨_, hread⟩ => hread, fun hread => ⟨hv, hread⟩⟩

/-- A field of text has the text that stands there. -/
theorem Field.takes_text {name : String} {x : Option Json} {s : String} :
    (Field.mk name .text none).Takes x s ↔ x = some (.string s) := by
  cases x with
  | none => simp [Takes]
  | some v => cases v <;> simp [Takes, FieldType.read, Json.normal]

/-- A flag has the truth value that stands there. -/
theorem Field.takes_flag {name : String} {x : Option Json} {b : Bool} :
    (Field.mk name .flag none).Takes x b ↔ x = some (.bool b) := by
  cases x with
  | none => simp [Takes]
  | some v => cases v <;> simp [Takes, FieldType.read, Json.normal]

namespace Schema

/-- The values that some fields have of the members of their names. -/
def TakesMembers (ms : Json.Members) : (fs : List Field) → Field.Values fs → Prop
  | [], _ => True
  | f :: fs, (y, ys) => f.Takes (ms.get? f.name) y ∧ TakesMembers ms fs ys

/-- The values that some fields have of some items, each field of the item in its place. -/
def TakesItems : (fs : List Field) → List Json → Field.Values fs → Prop
  | [], xs, _ => xs = []
  | f :: fs, xs, (y, ys) => f.Takes xs.head? y ∧ TakesItems fs xs.tail ys

variable {fs : List Field} {ms : Json.Members} {f : Field} {σ : Schema}

/-- A field that is there and cannot be read is refused. -/
theorem readMembers_mistyped (h : ms.normal) {v : Json} (hnormal : v.normal) {e : ShapeError}
    (hv : ms.get? f.name = some v) (he : f.type.read v hnormal = .error e) :
    readMembers (f :: fs) ms h = .error e := by
  rw [readMembers]
  split
  · next v' hv' =>
    obtain rfl := Option.some.inj (hv'.symm.trans hv)
    rw [he]
    rfl
  · next hnone => simp [hv] at hnone

/-- The first of some fields is read, and so are the others. -/
theorem readMembers_cons_eq_ok_iff (h : ms.normal) {y : f.type.Carrier} {ys : Field.Values fs} :
    readMembers (f :: fs) ms h = .ok (y, ys) ↔
      f.Takes (ms.get? f.name) y ∧ readMembers fs ms h = .ok ys := by
  have read {z : f.type.Carrier} : (readMembers fs ms h).map (fun zs => (z, zs)) = .ok (y, ys) ↔
      z = y ∧ readMembers fs ms h = .ok ys := by
    cases readMembers fs ms h <;> simp [Except.map]
  cases hget : ms.get? f.name with
  | none =>
    show _ ↔ f.absent = some y ∧ _
    cases habsent : f.absent with
    | none => simp [readMembers_missing h hget habsent]
    | some z =>
      rw [readMembers_default h hget habsent, Option.some.injEq]
      exact read
  | some v =>
    have hv := Json.Members.normal_of_get? h hget
    rw [f.takes_some hv]
    cases hread : f.type.read v hv with
    | error e => simp [readMembers_mistyped h hv hget hread]
    | ok z =>
      rw [readMembers_present h hv hget hread, Except.ok.injEq]
      exact read

/-- The fields are read from the members of their names. -/
theorem readMembers_eq_ok_iff (h : ms.normal) {vs : Field.Values fs} :
    readMembers fs ms h = .ok vs ↔ TakesMembers ms fs vs := by
  induction fs with
  | nil => exact ⟨fun _ => trivial, fun _ => rfl⟩
  | cons f fs ih =>
    obtain ⟨y, ys⟩ := vs
    rw [readMembers_cons_eq_ok_iff, ih]
    rfl

/-- If the fields have values, those that are there can be read. -/
theorem TakesMembers.read {vs : Field.Values fs} (h : TakesMembers ms fs vs) (hf : f ∈ fs)
    {v : Json} (hv : v.normal) (hget : ms.get? f.name = some v) :
    ∃ y, f.type.read v hv = .ok y := by
  induction fs with
  | nil => cases hf
  | cons f' fs ih =>
    obtain ⟨y, ys⟩ := vs
    obtain ⟨hfirst, hrest⟩ := h
    rcases List.mem_cons.1 hf with rfl | hf
    · rw [hget] at hfirst
      exact ⟨y, hfirst.2⟩
    · exact ih hrest hf

/-! ### Items -/

section Items

variable {index : Nat}

theorem readItems_cons {x : Json} {xs : Json.Items} (h : (Json.Items.cons x xs).normal)
    (hx : x.normal) (hxs : xs.normal) : readItems σ (f :: fs) index (.cons x xs) h =
      (f.type.read x hx).bind fun y =>
        (readItems σ fs (index + 1) xs hxs).bind fun p => .ok ((y, p.1), p.2) := rfl

theorem readItems_default (h : Json.Items.nil.normal) {y : f.type.Carrier}
    (hy : f.absent = some y) : readItems σ (f :: fs) index .nil h =
      (readItems σ fs (index + 1) .nil h).bind fun p => .ok ((y, p.1), p.2) := by
  obtain ⟨name, type, absent⟩ := f
  cases absent with
  | none => cases hy
  | some z =>
    obtain rfl : z = y := Option.some.inj hy
    rfl

theorem readItems_missing (h : Json.Items.nil.normal) (hnone : f.absent = none) :
    readItems σ (f :: fs) index .nil h = .error (.tooShort index σ.name σ.fields.length) := by
  obtain ⟨name, type, absent⟩ := f
  cases absent with
  | none => rfl
  | some y => cases hnone

/-- The fields are read from the items in their order, if no item is left over. -/
theorem readItems_eq_ok_iff (σ : Schema) (index : Nat) {xs : Json.Items} (h : xs.normal)
    {vs : Field.Values fs} :
    readItems σ fs index xs h = .ok (vs, 0) ↔ TakesItems fs xs.toList vs := by
  induction fs generalizing index xs with
  | nil =>
    show Except.ok ((), xs.toList.length) = .ok ((), 0) ↔ xs.toList = []
    simp
  | cons f fs ih =>
    obtain ⟨y, ys⟩ := vs
    -- a first value, and the others of the items that are left
    have rest {z : f.type.Carrier} {xs : Json.Items} (hxs : xs.normal) :
        ((readItems σ fs (index + 1) xs hxs).bind fun p => .ok ((z, p.1), p.2)) =
          .ok ((y, ys), 0) ↔ z = y ∧ TakesItems fs xs.toList ys := by
      rw [← ih (index + 1) hxs]
      cases readItems σ fs (index + 1) xs hxs with
      | error e => simp [Except.bind]
      | ok p => simp [Except.bind, Prod.ext_iff, and_assoc]
    cases xs with
    | nil =>
      show _ ↔ f.absent = some y ∧ TakesItems fs [] ys
      cases habsent : f.absent with
      | none => simp [readItems_missing h habsent]
      | some z =>
        rw [readItems_default h habsent, Option.some.injEq]
        exact rest h
    | cons x xs =>
      have hparts : x.normal ∧ xs.normal := by simpa [Json.Items.normal] using h
      show _ ↔ f.Takes (some x) y ∧ TakesItems fs xs.toList ys
      rw [readItems_cons h hparts.1 hparts.2, f.takes_some hparts.1]
      cases f.type.read x hparts.1 with
      | error e => simp [Except.bind]
      | ok z =>
        rw [Except.ok.injEq]
        exact rest hparts.2

end Items

/-! ### Whole records -/

theorem read_object (h : (Json.object ms).normal) (hms : ms.normal) :
    σ.read ⟨.object ms, h⟩ =
      (checkMembers σ.fields ms hms).bind fun _ => readMembers σ.fields ms hms := rfl

theorem read_array {xs : Json.Items} (h : (Json.array xs).normal) (hxs : xs.normal) :
    σ.read ⟨.array xs, h⟩ = (readItems σ σ.fields 0 xs hxs).bind fun p =>
      if p.2 = 0 then .ok p.1 else .error (.tooLong xs.toList.length) := rfl

/-- A record is read from an object whose members give its fields their values, or from an array
    whose items do, and from nothing else. -/
theorem read_eq_ok_iff {p : Payload} {vs : σ.Values} : σ.read p = .ok vs ↔
    (∃ ms, p.document = .object ms ∧ TakesMembers ms σ.fields vs) ∨
      ∃ xs, p.document = .array xs ∧ TakesItems σ.fields xs.toList vs := by
  obtain ⟨v, hv⟩ := p
  cases v with
  | null | bool | number | string => simp [read]
  | object ms =>
    have hms : ms.normal := by rwa [Json.normal] at hv
    simp only [Json.object.injEq, exists_eq_left', reduceCtorEq, false_and, exists_false, or_false]
    rw [read_object hv hms, ← readMembers_eq_ok_iff hms]
    refine ⟨fun h => ?_, fun h => ?_⟩
    · cases hcheck : checkMembers σ.fields ms hms with
      | error e => rw [hcheck] at h; cases h
      | ok u => rwa [hcheck] at h
    · -- the check fails only for what is read after it
      have htakes := (readMembers_eq_ok_iff hms).1 h
      rw [checkMembers_eq_ok hms fun f hf v hv hget => htakes.read hf hv hget]
      exact h
  | array xs =>
    have hxs : xs.normal := by rwa [Json.normal] at hv
    simp only [Json.array.injEq, exists_eq_left', reduceCtorEq, false_and, exists_false, false_or]
    rw [read_array hv hxs, ← readItems_eq_ok_iff σ 0 hxs]
    cases readItems σ σ.fields 0 xs hxs with
    | error e => simp [Except.bind]
    | ok p =>
      obtain ⟨ws, more⟩ := p
      show (if more = 0 then Except.ok ws else _) = _ ↔ _
      cases more with
      | zero => simp
      | succ n => simp

end Schema
end PartyLine
