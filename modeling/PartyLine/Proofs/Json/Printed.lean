import PartyLine.Proofs.Json.Double
import PartyLine.Proofs.Json.Normal
import PartyLine.Proofs.Json.Reading

/-!
# Reading what is printed

The printed text of any document, doubles among its numbers, is read as the same document but
for the doubles: each of them is what its own digits are read as. Nothing else can change, and
nothing else can be wrong with the text if the document is not nested too deeply.

The proof follows that of `PartyLine.Proofs.Json.Reading`, for the one text of the printer instead
of all texts of a document. What is read may now differ from what was printed, so the outcome is
given as the document that comes back, or none where a double is not read at all (`Comes`). What a
double is read as is left to `Double.reread`, which knows of no text.

* `Json.reread`, `Json.doubles`: a document with its doubles as they are read again, and which
  doubles it has;
* `Comes`, `Comes.bind`: the outcome that this decides, and reading one thing after the other;
* `comes_value`, `comes_items`, `comes_members`: the printed texts of documents, items and
  members;
* `ofChars_render`: a whole text;
* `reread_eq_some_iff`: which documents come back as they are.
-/

namespace PartyLine

namespace Json

open Reader

mutual

/-- A document with every double as it is read from its own text; none if one of them is not
    read as a double. -/
def reread : Json → Option Json
  | .number (.double x) => x.reread.map fun y => .number (.double y)
  | .array items => items.reread.map .array
  | .object members => members.reread.map .object
  | v => some v

/-- The items with every double as it is read. -/
def Items.reread : Items → Option Items
  | .nil => some .nil
  | .cons head tail => head.reread.bind fun head => tail.reread.map (.cons head)

/-- The members with every double as it is read. -/
def Members.reread : Members → Option Members
  | .nil => some .nil
  | .cons key value tail => value.reread.bind fun value => tail.reread.map (.cons key value)

end

mutual

/-- The doubles of a document. -/
def doubles : Json → List Double
  | .number (.double x) => [x]
  | .array items => items.doubles
  | .object members => members.doubles
  | _ => []

/-- The doubles of the items. -/
def Items.doubles : Items → List Double
  | .nil => []
  | .cons head tail => head.doubles ++ tail.doubles

/-- The doubles of the members' values. -/
def Members.doubles : Members → List Double
  | .nil => []
  | .cons _ value tail => value.doubles ++ tail.doubles

end

/-! ## Outcomes -/

/-- What comes of reading something that is there or not: the thing and the rest, or a fault. -/
def Comes {α : Type} (x? : Option α) (rest : List Char) (outcome : Outcome (α × List Char)) :
    Prop :=
  match x? with
  | some x => outcome = .ok (x, rest)
  | none => ∃ f, outcome = .error f

section Comes

variable {α β : Type} {x? : Option α} {s rest : List Char} {outcome : Outcome (α × List Char)}

/-- One thing is read after the other, and what the second is may depend on the first. -/
theorem Comes.bind {g : α → Option β} {f : α × List Char → Outcome (β × List Char)}
    (h : Comes x? s outcome) (hf : ∀ x, Comes (g x) rest (f (x, s))) :
    Comes (x?.bind g) rest (outcome >>= f) := by
  cases x? with
  | some x =>
    rw [show outcome = .ok (x, s) from h]
    exact hf x
  | none =>
    obtain ⟨fault, hfault⟩ := h
    exact ⟨fault, by rw [hfault]; rfl⟩

/-- What is made of a thing once it is read does not matter to its reading. -/
theorem Comes.map (h : Comes x? rest outcome) (g : α → β) :
    Comes (x?.map g) rest (do
      let (x, rest) ← outcome
      return (g x, rest)) := by
  rw [Option.map_eq_bind]
  exact h.bind (f := fun p => .ok (g p.1, p.2)) fun x => rfl

end Comes

/-! ## Printed items and members -/

/-- The text of items from the first on, or from a later one on, with the closing bracket. -/
def Items.printed (first : Bool) : Items → List Char
  | .nil => [']']
  | .cons head tail => (if first then [] else [',']) ++ (head.render ++ tail.printed false)

/-- The text of members from the first on, or from a later one on, with the closing brace. -/
def Members.printed (first : Bool) : Members → List Char
  | .nil => ['\x7d']
  | .cons key value tail => (if first then [] else [',']) ++
      (renderString key ++ ':' :: (value.render ++ tail.printed false))

theorem Items.render_append : (xs : Items) → xs.render ++ [']'] = xs.printed true
  | .nil => rfl
  | .cons x .nil => by simp [render, printed]
  | .cons x (.cons y ys) => by
      have ih := Items.render_append (.cons y ys)
      rw [render]
      · simp only [printed] at ih
        simp [printed, ih]
      · rintro ⟨⟩

theorem Members.render_append : (ms : Members) → ms.render ++ ['\x7d'] = ms.printed true
  | .nil => rfl
  | .cons key x .nil => by simp [render, printed]
  | .cons key x (.cons key' y ms) => by
      have ih := Members.render_append (.cons key' y ms)
      rw [render]
      · simp only [printed] at ih
        simp [printed, ih]
      · rintro ⟨⟩

theorem lead_comma (first : Bool) : Lead first (if first then [] else [',']) := by
  cases first with
  | true => exact .first blank_nil
  | false => exact .next blank_nil blank_nil

/-- What follows an item does not go on a number. -/
theorem Items.printed_bounded (xs : Items) (rest : List Char) :
    Bounded (xs.printed false ++ rest) := by
  cases xs <;> exact bounded_cons.2 rfl

theorem Members.printed_bounded (ms : Members) (rest : List Char) :
    Bounded (ms.printed false ++ rest) := by
  cases ms <;> exact bounded_cons.2 rfl

theorem doubleText_starts (x : Double) :
    ∃ c t, NumberStyle.json.write x = c :: t ∧ (c = '-' ∨ c.isDigit) := by
  rw [NumberStyle.write]
  split
  · exact ⟨'-', _, rfl, .inl rfl⟩
  · obtain ⟨c, t, ht, hc⟩ := magnitude_starts x
    exact ⟨c, t, ht, .inr hc⟩

/-- The text of a number begins with its sign or with a digit. -/
theorem Number.render_starts (n : Number) : ∃ c t, n.render = c :: t ∧ (c = '-' ∨ c.isDigit) := by
  cases n with
  | integer i h => exact integerText_starts i
  | double x => exact doubleText_starts x

/-- The text of a document begins like a value, and only that of an array or an object with a
    bracket or a brace. -/
theorem render_starts (v : Json) : ∃ c t, v.render = c :: t ∧ startsValue c ∧
    (v.depth = 0 → c ≠ '[' ∧ c ≠ '\x7b') := by
  cases v with
  | null => exact ⟨_, _, rfl, rfl, fun _ => by decide⟩
  | bool b => cases b <;> exact ⟨_, _, rfl, rfl, fun _ => by decide⟩
  | string s => exact ⟨_, _, rfl, rfl, fun _ => by decide⟩
  | number n =>
    obtain ⟨c, t, ht, hc⟩ := n.render_starts
    refine ⟨c, t, by rw [render, ht], ?_, fun _ => ⟨?_, ?_⟩⟩
    · rcases hc with rfl | hc
      · rfl
      · simp [startsValue, hc]
    · rintro rfl
      exact absurd hc (by decide)
    · rintro rfl
      exact absurd hc (by decide)
  | array xs => exact ⟨_, _, by rw [render], rfl, fun hv => by rw [depth] at hv; cases hv⟩
  | object ms => exact ⟨_, _, by rw [render], rfl, fun hv => by rw [depth] at hv; cases hv⟩

/-! ## Values -/

/-- A document that is neither array nor object is read as a scalar. -/
theorem value_render (v : Json) (hv : v.depth = 0) (levels : Nat) (rest : List Char) :
    value levels (v.render ++ rest) = (do
      let (v, rest) ← scalar (v.render ++ rest)
      return (v.toJson, rest)) := by
  obtain ⟨c, t, ht, hc, hkind⟩ := render_starts v
  obtain ⟨harray, hobject⟩ := hkind hv
  rw [ht]
  exact value_scalar blank_nil (isBlank_of_startsValue hc) harray hobject levels (t ++ rest)

/-- A document without doubles comes as it is. -/
theorem comes_integral {v : Json} (hdepth : v.depth = 0) (hv : v.integral) (levels : Nat)
    {rest : List Char} (hrest : Bounded rest) :
    Comes (some v) rest (value levels (v.render ++ rest)) := by
  have := (reads_value v (written_render v hv) blank_nil hrest levels).ok (by omega)
  rwa [List.nil_append] at this

theorem comes_double (x : Double) (levels : Nat) {rest : List Char} (hrest : Bounded rest) :
    Comes (reread (.number (.double x))) rest
      (value levels (render (.number (.double x)) ++ rest)) := by
  rw [value_render _ (by rw [depth] <;> simp), render, Number.render, scalar_write x hrest, reread]
  cases x.reread with
  | some y => rfl
  | none => exact ⟨_, rfl⟩

mutual

/-- The text of a document is read as the document with its doubles as they are read. -/
theorem comes_value (v : Json) {levels : Nat} (hdepth : v.depth ≤ levels) {rest : List Char}
    (hrest : Bounded rest) : Comes v.reread rest (value levels (v.render ++ rest)) := by
  cases v with
  | null | bool b | string s => exact comes_integral (by rw [depth] <;> simp) rfl levels hrest
  | number n =>
    cases n with
    | integer i h => exact comes_integral (by rw [depth] <;> simp) rfl levels hrest
    | double x => exact comes_double x levels hrest
  | array xs =>
    rw [depth] at hdepth
    obtain ⟨levels, rfl⟩ := Nat.exists_eq_add_one.2 (Nat.zero_lt_of_lt hdepth)
    rw [render, Items.render_append, List.cons_append, ← List.nil_append ('[' :: _),
      value_array blank_nil, reread]
    exact (comes_items xs (Nat.le_of_succ_le_succ hdepth) true rest (lt_length_append _ rest)).map
      Json.array
  | object ms =>
    rw [depth] at hdepth
    obtain ⟨levels, rfl⟩ := Nat.exists_eq_add_one.2 (Nat.zero_lt_of_lt hdepth)
    rw [render, Members.render_append, List.cons_append, ← List.nil_append ('\x7b' :: _),
      value_object blank_nil, reread]
    exact (comes_members ms (Nat.le_of_succ_le_succ hdepth) true rest
      (lt_length_append _ rest)).map Json.object

/-- The text of items is read up to the closing bracket. -/
theorem comes_items (xs : Items) {levels : Nat} (hdepth : xs.depth ≤ levels) (first : Bool)
    (rest : List Char) {fuel : Nat} (hfuel : (xs.printed first).length < fuel) :
    Comes xs.reread rest (items (value levels) fuel first (xs.printed first ++ rest)) := by
  obtain ⟨fuel, rfl⟩ := Nat.exists_eq_add_one.2 (Nat.zero_lt_of_lt hfuel)
  cases xs with
  | nil =>
    rw [Items.printed, items, ← List.nil_append ([']'] ++ rest), List.singleton_append,
      nextItem_end blank_nil]
    rfl
  | cons x xs =>
    rw [Items.depth, Nat.max_le] at hdepth
    have hitem := comes_value x hdepth.1 (xs.printed_bounded rest)
    obtain ⟨c, s, hcs, hc, -⟩ := render_starts x
    simp only [Items.printed, List.length_append, hcs, List.length_cons] at hfuel
    have htail :=
      comes_items xs hdepth.2 false rest (show (xs.printed false).length < fuel by omega)
    rw [hcs, List.cons_append] at hitem
    rw [Items.printed, items, List.append_assoc, List.append_assoc, hcs, List.cons_append,
      nextItem_lead (lead_comma first) hc, Items.reread]
    exact hitem.bind fun x => htail.map (Items.cons x)

/-- The text of members is read up to the closing brace. -/
theorem comes_members (ms : Members) {levels : Nat} (hdepth : ms.depth ≤ levels) (first : Bool)
    (rest : List Char) {fuel : Nat} (hfuel : (ms.printed first).length < fuel) :
    Comes ms.reread rest (members (value levels) fuel first (ms.printed first ++ rest)) := by
  obtain ⟨fuel, rfl⟩ := Nat.exists_eq_add_one.2 (Nat.zero_lt_of_lt hfuel)
  cases ms with
  | nil =>
    rw [Members.printed, members, ← List.nil_append (['\x7d'] ++ rest), List.singleton_append,
      nextKey_end blank_nil]
    rfl
  | cons key x ms =>
    rw [Members.depth, Nat.max_le] at hdepth
    have hvalue := comes_value x hdepth.1 (ms.printed_bounded rest)
    simp only [Members.printed, List.length_append, List.length_cons] at hfuel
    have htail :=
      comes_members ms hdepth.2 false rest (show (ms.printed false).length < fuel by omega)
    have htext : (Members.cons key x ms).printed first ++ rest =
        (if first then [] else [',']) ++ (renderString key ++ ([] ++ ':' ::
          (x.render ++ (ms.printed false ++ rest)))) := by
      simp [Members.printed]
    rw [htext, members, nextKey_lead (lead_comma first) (quoted_renderString key), Members.reread]
    show Comes _ _ (do
      let s ← colon ([] ++ ':' :: (x.render ++ (ms.printed false ++ rest)))
      let (value, s) ← value levels s
      let (tail, s) ← members (Reader.value levels) fuel false s
      return (Members.cons key value tail, s))
    rw [colon_append blank_nil]
    exact hvalue.bind fun x => htail.map (Members.cons key x)

end

/-- A whole printed text of a document that is not nested too deeply is read as what is made of
    the document by reading its doubles again, and otherwise not at all. -/
theorem ofChars_render {v w : Json} (hdepth : v.depth ≤ maxDepth) :
    ofChars v.render = .ok w ↔ v.reread = some w := by
  have hread := comes_value v hdepth bounded_nil
  rw [List.append_nil] at hread
  cases hv : v.reread with
  | some u =>
    rw [hv] at hread
    rw [ofChars, show value maxDepth v.render = .ok (u, []) from hread]
    exact ⟨fun h => congrArg some (Except.ok.inj h),
      fun h => congrArg Except.ok (Option.some.inj h)⟩
  | none =>
    rw [hv] at hread
    obtain ⟨f, hf⟩ := hread
    rw [ofChars, hf]
    exact ⟨fun h => (by cases h), fun h => (by cases h)⟩

/-! ## What comes back -/

mutual

/-- A document comes back as it is if all its doubles do. -/
theorem reread_eq_some_iff (v : Json) : v.reread = some v ↔ ∀ x ∈ v.doubles, x.reread = some x := by
  cases v with
  | null | bool | string => simp [reread, doubles]
  | number n =>
    cases n with
    | integer => simp [reread, doubles]
    | double x => simp [reread, doubles]
  | array xs => simpa [reread, doubles] using Items.reread_eq_some_iff xs
  | object ms => simpa [reread, doubles] using Members.reread_eq_some_iff ms

theorem Items.reread_eq_some_iff (xs : Items) :
    xs.reread = some xs ↔ ∀ x ∈ xs.doubles, x.reread = some x := by
  cases xs with
  | nil => simp [Items.reread, Items.doubles]
  | cons x xs =>
    simp [Items.reread, Items.doubles, or_imp, forall_and, Option.bind_eq_some_iff,
      ← Json.reread_eq_some_iff x, ← Items.reread_eq_some_iff xs]

theorem Members.reread_eq_some_iff (ms : Members) :
    ms.reread = some ms ↔ ∀ x ∈ ms.doubles, x.reread = some x := by
  cases ms with
  | nil => simp [Members.reread, Members.doubles]
  | cons key x ms =>
    simp [Members.reread, Members.doubles, or_imp, forall_and, Option.bind_eq_some_iff,
      ← Json.reread_eq_some_iff x, ← Members.reread_eq_some_iff ms]

end

mutual

/-- Reading again keeps the normal form. -/
theorem normal_of_reread {v w : Json} (h : v.reread = some w) : w.normal = v.normal := by
  cases v with
  | null | bool | string => cases h; rfl
  | number n =>
    cases n with
    | integer => cases h; rfl
    | double x =>
      obtain ⟨y, -, rfl⟩ := Option.map_eq_some_iff.1 h
      rfl
  | array xs =>
    obtain ⟨ys, hys, rfl⟩ := Option.map_eq_some_iff.1 h
    exact Items.normal_of_reread hys
  | object ms =>
    obtain ⟨ns, hns, rfl⟩ := Option.map_eq_some_iff.1 h
    exact (Members.normal_of_reread hns).1

theorem Items.normal_of_reread {xs ys : Items} (h : xs.reread = some ys) :
    ys.normal = xs.normal := by
  cases xs with
  | nil => cases h; rfl
  | cons x xs =>
    obtain ⟨y, hy, h⟩ := Option.bind_eq_some_iff.1 h
    obtain ⟨ys, hys, rfl⟩ := Option.map_eq_some_iff.1 h
    rw [Items.normal, Items.normal, Json.normal_of_reread hy, Items.normal_of_reread hys]

theorem Members.normal_of_reread {ms ns : Members} (h : ms.reread = some ns) :
    ns.normal = ms.normal ∧ ∀ key, ns.above key = ms.above key := by
  cases ms with
  | nil => cases h; exact ⟨rfl, fun _ => rfl⟩
  | cons key x ms =>
    obtain ⟨y, hy, h⟩ := Option.bind_eq_some_iff.1 h
    obtain ⟨ns, hns, rfl⟩ := Option.map_eq_some_iff.1 h
    obtain ⟨hnormal, habove⟩ := Members.normal_of_reread hns
    refine ⟨?_, fun low => ?_⟩
    · rw [Members.normal, Members.normal, Json.normal_of_reread hy, hnormal, habove]
    · rw [Members.above, Members.above, habove]

end

end Json

end PartyLine
