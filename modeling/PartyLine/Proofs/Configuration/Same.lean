import PartyLine.Proofs.Configuration.Overlay

/-!
# Configurations up to the order of entries

The entries of a table are listed in some order, and a key that is new to a table is listed last.
So two runs of overlays that leave the same under every key may list it differently. Here *the
same* is meant up to this order, at any depth: scalars are equal, arrays have the same items at the
same places, and tables have the same values under the same keys, and as many entries. The number
counts because a choice may be read from a table with a single entry.

Overlays keep values the same: what a change makes of a table or an array is made entry by entry
or item by item, and finds the same there in both.

* `Configuration.Same`, `Configuration.SameItems`, `Configuration.Entries.Same`: the same but for
  the order of entries, for values, items and entries;
* `Configuration.Agree`: changes that make the same of the same;
* `Configuration.agree_laidOver`: laying a value over is such a change;
* `Configuration.agree_alter`: so is such a change at the end of any steps;
* `Configuration.Same.withLayers`: layers over the same configuration leave the same.
-/

namespace PartyLine

namespace Configuration

@[simp] theorem tableOrigin_table (origin : Option Origin) (es : Entries) :
    (table origin es).tableOrigin = origin := rfl

@[simp] theorem arrayOrigin_array (origin : Option Origin) (xs : Items) :
    (array origin xs).arrayOrigin = origin := rfl

@[simp] theorem items_array (origin : Option Origin) (xs : Items) :
    (array origin xs).items = xs := rfl

/-- Two values that are the same but for the order of the entries of tables, at any depth. -/
inductive Same : Configuration → Configuration → Prop
  | scalar (origin : Option Origin) (value : Scalar) :
      Same (.scalar origin value) (.scalar origin value)
  | array {origin : Option Origin} {xs ys : Items} :
      (∀ i : Nat, Option.Rel Same xs.toList[i]? ys.toList[i]?) →
      Same (.array origin xs) (.array origin ys)
  | table {origin : Option Origin} {es es' : Entries} :
      es.toList.length = es'.toList.length →
      (∀ key, Option.Rel Same (es.get? key) (es'.get? key)) →
      Same (.table origin es) (.table origin es')

/-- Items that are the same one by one. -/
def SameItems (xs ys : List Configuration) : Prop :=
  ∀ i : Nat, Option.Rel Same xs[i]? ys[i]?

theorem same_array {origin : Option Origin} {xs ys : Items} (h : SameItems xs.toList ys.toList) :
    Same (.array origin xs) (.array origin ys) := .array h

/-- Entries that are the same under each key, and as many. -/
structure Entries.Same (es es' : Entries) : Prop where
  length : es.toList.length = es'.toList.length
  get? (key : String) : Option.Rel Configuration.Same (es.get? key) (es'.get? key)

section Same

variable {v w : Configuration} {x y : Option Configuration} {xs ys : List Configuration}
  {es es' : Entries} {f g h : Configuration → Configuration}

mutual

theorem Same.refl (v : Configuration) : Same v v := by
  cases v with
  | scalar origin value => exact .scalar origin value
  | array origin xs => exact .array (Items.same_refl xs)
  | table origin es => exact .table rfl (Entries.rel_refl es)

theorem Items.same_refl (xs : Items) : SameItems xs.toList xs.toList := by
  intro i
  cases xs with
  | nil => exact .none
  | cons head tail =>
    cases i with
    | zero => exact .some (Same.refl head)
    | succ i => exact Items.same_refl tail i

theorem Entries.rel_refl (es : Entries) (key : String) :
    Option.Rel Configuration.Same (es.get? key) (es.get? key) := by
  cases es with
  | nil => exact .none
  | cons k value tail =>
    simp only [Entries.get?]
    split
    · exact .some (Same.refl value)
    · exact Entries.rel_refl tail key

end

theorem Entries.same_refl (es : Entries) : es.Same es := ⟨rfl, Entries.rel_refl es⟩

theorem rel_refl (x : Option Configuration) : Option.Rel Same x x := by
  cases x with
  | none => exact .none
  | some v => exact .some (.refl v)

theorem rel_getD (h : Option.Rel Same x y) : Same (x.getD nothing) (y.getD nothing) := by
  cases h with
  | none => exact .refl nothing
  | some h => exact h

theorem isSome_eq (h : Option.Rel Same x y) : x.isSome = y.isSome := by
  cases h <;> rfl

theorem Same.items (h : Same v w) : SameItems v.items.toList w.items.toList := by
  cases h with
  | scalar => exact fun _ => .none
  | array h => exact h
  | table => exact fun _ => .none

theorem Same.entries (h : Same v w) : v.entries.Same w.entries := by
  cases h with
  | scalar => exact Entries.same_refl _
  | array => exact Entries.same_refl _
  | table hlength hget => exact ⟨hlength, hget⟩

theorem Same.arrayOrigin_eq (h : Same v w) : v.arrayOrigin = w.arrayOrigin := by
  cases h <;> rfl

theorem Same.tableOrigin_eq (h : Same v w) : v.tableOrigin = w.tableOrigin := by
  cases h <;> rfl

theorem SameItems.length_eq (h : SameItems xs ys) : xs.length = ys.length := by
  refine Nat.le_antisymm ?_ ?_
  · have hlast := isSome_eq (h ys.length)
    simpa using hlast
  · have hlast := isSome_eq (h xs.length)
    simpa using hlast.symm

/-! ### Changes -/

/-- Two changes that make the same of values that are the same. -/
def Agree (g h : Configuration → Configuration) : Prop :=
  ∀ v w : Configuration, Same v w → Same (g v) (h w)

theorem toList_length_alter (name : String) (g : Configuration → Configuration) :
    (es : Entries) → (es.alter name g).toList.length =
      es.toList.length + if (es.get? name).isSome then 0 else 1
  | .nil => rfl
  | .cons k v tail => by
      by_cases hk : k = name
      · simp [Entries.alter, Entries.get?, Entries.toList, hk]
      · simp only [Entries.alter, Entries.get?, Entries.toList, hk, if_false, List.length_cons,
          toList_length_alter name g tail]
        omega

/-- Changing an entry of each. -/
theorem Entries.Same.alter (hes : es.Same es') (hg : Agree g h) (name : String) :
    (es.alter name g).Same (es'.alter name h) where
  length := by
    rw [toList_length_alter, toList_length_alter, hes.length, isSome_eq (hes.get? name)]
  get? key := by
    by_cases hkey : key = name
    · subst hkey
      rw [get?_alter_self, get?_alter_self]
      exact .some (hg _ _ (rel_getD (hes.get? key)))
    · rw [get?_alter_of_ne hkey, get?_alter_of_ne hkey]
      exact hes.get? key

mutual

/-- Laying a value over two keeps them the same. -/
theorem agree_laidOver (value : Configuration) :
    Agree (fun old => value.laidOver old) fun old => value.laidOver old := by
  intro v w h
  cases value with
  | scalar origin s => exact .refl _
  | array origin xs => exact .refl _
  | table origin es =>
    obtain ⟨hlength, hget⟩ := Entries.same_laidOver es h.entries
    simp only [laidOver, h.tableOrigin_eq]
    exact .table hlength hget

theorem Entries.same_laidOver (es : Entries) {below below' : Entries} (h : below.Same below') :
    (es.laidOver below).Same (es.laidOver below') := by
  cases es with
  | nil => exact h
  | cons key value tail =>
    exact Entries.same_laidOver tail (h.alter (agree_laidOver value) key)

end

theorem SameItems.modify (hxs : SameItems xs ys) (hg : Agree g h) (n : Nat) :
    SameItems (xs.modify n g) (ys.modify n h) := by
  intro i
  have hi := hxs i
  rw [List.getElem?_modify, List.getElem?_modify]
  generalize xs[i]? = x at hi ⊢
  generalize ys[i]? = y at hi ⊢
  cases hi with
  | none => exact .none
  | some hi =>
    refine .some ?_
    split
    · exact hg _ _ hi
    · exact hi

theorem SameItems.append {xs' ys' : List Configuration} (hxs : SameItems xs ys)
    (hxs' : SameItems xs' ys') : SameItems (xs ++ xs') (ys ++ ys') := by
  intro i
  rw [List.getElem?_append, List.getElem?_append, hxs.length_eq]
  split
  · exact hxs i
  · exact hxs' _

/-- Changing an item of each, at whatever place. -/
theorem SameItems.alter (hxs : SameItems xs ys) (hg : Agree g h) (place : Int) :
    SameItems (alterAt place g xs) (alterAt place h ys) := by
  have hnothing (n : Nat) : SameItems (List.replicate n nothing) (List.replicate n nothing) :=
    fun i => rel_refl _
  have hfirst : SameItems [g nothing] [h nothing] := by
    intro i
    cases i with
    | zero => exact .some (hg _ _ (.refl nothing))
    | succ i => exact .none
  simp only [Configuration.alterAt, hxs.length_eq]
  generalize (if 0 ≤ place then place else place + ys.length) = i
  split
  · exact (hxs.append (hnothing _)).modify hg _
  · exact (hfirst.append (hnothing _)).append hxs

/-- Changing what is at the end of some steps. -/
theorem agree_alter (hg : Agree g h) (steps : List Step) :
    Agree (alter g steps) (alter h steps) := by
  induction steps with
  | nil => exact hg
  | cons step steps ih =>
    intro v w hvw
    cases step with
    | key name =>
      obtain ⟨hlength, hget⟩ := hvw.entries.alter ih name
      simp only [alter, hvw.tableOrigin_eq]
      exact .table hlength hget
    | index place =>
      have hitems := hvw.items.alter ih place
      simp only [alter, hvw.arrayOrigin_eq]
      refine same_array ?_
      simpa only [Items.toList_ofList] using hitems

/-- So does laying a value, or a layer, over two. -/
theorem Same.assign (hvw : Same v w) (steps : List Step) (value : Configuration) :
    Same (v.assign steps value) (w.assign steps value) :=
  agree_alter (agree_laidOver value) steps v w hvw

theorem Same.withLayer (hvw : Same v w) (layer : List (String × Configuration)) :
    Same (v.withLayer layer) (w.withLayer layer) := by
  induction layer generalizing v w with
  | nil => exact hvw
  | cons p layer ih => exact ih (hvw.assign (Path.parse p.1) p.2)

theorem Same.withLayers (hvw : Same v w) (layers : List (List (String × Configuration))) :
    Same (layers.foldl Configuration.withLayer v) (layers.foldl Configuration.withLayer w) := by
  induction layers generalizing v w with
  | nil => exact hvw
  | cons layer layers ih => exact ih (hvw.withLayer layer)

end Same

end Configuration

end PartyLine
