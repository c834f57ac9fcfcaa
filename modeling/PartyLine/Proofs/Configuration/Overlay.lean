import Mathlib.Data.List.TakeWhile
import PartyLine.Configuration.Path

/-!
# What overlays leave at a path

A table is laid over another key by key, so that what a path leads to in the result is
settled by the table on top if the path leads somewhere in it, and by the one below if
not. This holds of tables in which no key occurs twice; with a key twice, the later
value would be laid over the earlier one.

A place is reached through tables, and what an overlay does at one place may be seen at another in
three ways: at the place itself, beside it, or on the way to it, where a scalar gives way to a
table. Each of the three has a lemma (`reach?_alter_self`, `reach?_alter_of_beside`, and `Clear`
for the way), and a whole layer is one overlay after the other.

* `Configuration.reach?`: the value that keys lead to through tables;
* `Configuration.Clear`: there is nothing but tables on the way;
* `Configuration.Distinct`: no table has a key twice, at any depth;
* `Configuration.reach?_laidOver`: what a path leads to in an overlay;
* `Configuration.reach?_alter_self`, `Configuration.reach?_alter_of_beside`: what an
  overlay at one path changes, and what it does not;
* `Configuration.Clear.laidOver`, `Configuration.Clear.alter`: what stays clear;
* `Configuration.withLayer_toList`: a layer of plain keys is laid over as one table.
-/

namespace PartyLine

namespace Configuration

/-- Whether a value is a table. -/
def isTable : Configuration → Bool
  | .table _ _ => true
  | _ => false

/-- The value that keys lead to, each the key of an entry in a table. -/
def reach? : List String → Configuration → Option Configuration
  | [], v => some v
  | key :: keys, v => (v.entries.get? key).bind (reach? keys)

/-- Wherever keys lead on the way to their end, there is a table. -/
def Clear : List String → Configuration → Prop
  | [], _ => True
  | key :: keys, v => v.isTable ∧ ∀ x, v.entries.get? key = some x → Clear keys x

instance decidableClear : (keys : List String) → (v : Configuration) → Decidable (v.Clear keys)
  | [], _ => .isTrue trivial
  | key :: keys, v =>
      letI := decidableClear keys
      inferInstanceAs (Decidable (v.isTable ∧ ∀ x ∈ v.entries.get? key, Clear keys x))

mutual

/-- No table has a key twice, at any depth. -/
def Distinct : Configuration → Prop
  | .scalar _ _ => True
  | .array _ xs => xs.Distinct
  | .table _ es => es.Distinct

/-- `Distinct` of all items. -/
def Items.Distinct : Items → Prop
  | .nil => True
  | .cons head tail => Configuration.Distinct head ∧ tail.Distinct

/-- `Distinct` of a table's entries. -/
def Entries.Distinct : Entries → Prop
  | .nil => True
  | .cons key value tail =>
      tail.get? key = none ∧ Configuration.Distinct value ∧ tail.Distinct

end

/-- Two paths of which neither goes on from the other. -/
def Apart (keys others : List String) : Prop := ¬ keys <+: others ∧ ¬ others <+: keys

instance (keys others : List String) : Decidable (Apart keys others) :=
  inferInstanceAs (Decidable (_ ∧ _))

/-- Steps that part from a path at one of its keys; steps into an array count for none. -/
def Beside : List Step → List String → Prop
  | .key name :: steps, key :: keys => name ≠ key ∨ Beside steps keys
  | _, _ => False

theorem not_beside_nil (steps : List Step) : ¬ Beside steps [] := by
  cases steps with
  | nil => exact id
  | cons step steps => cases step <;> exact id

/-- Paths apart part at a key. -/
theorem Apart.beside {keys others : List String} (h : Apart keys others) :
    Beside (keys.map .key) others := by
  induction keys generalizing others with
  | nil => exact absurd List.nil_prefix h.1
  | cons key keys ih =>
    cases others with
    | nil => exact absurd List.nil_prefix h.2
    | cons other others =>
      by_cases hkey : key = other
      · subst hkey
        exact .inr (ih (by simpa only [Apart, List.cons_prefix_cons, true_and] using h))
      · exact .inl hkey

@[simp] theorem reach?_nil (v : Configuration) : v.reach? [] = some v := rfl

theorem reach?_cons (key : String) (keys : List String) (v : Configuration) :
    v.reach? (key :: keys) = (v.entries.get? key).bind (reach? keys) := rfl

theorem reach?_singleton (key : String) (v : Configuration) :
    v.reach? [key] = v.entries.get? key := by
  rw [reach?_cons]
  cases v.entries.get? key <;> rfl

theorem reach?_append (keys others : List String) (v : Configuration) :
    v.reach? (keys ++ others) = (v.reach? keys).bind (reach? others) := by
  induction keys generalizing v with
  | nil => rfl
  | cons key keys ih =>
    rw [List.cons_append, reach?_cons, reach?_cons, Option.bind_assoc]
    exact Option.bind_congr fun w _ => ih w

/-- What a path leads to is in the table that its way leads to. -/
theorem exists_reach?_of_concat (keys : List String) {key : String} {v x : Configuration}
    (h : v.reach? (keys ++ [key]) = some x) :
    ∃ w, v.reach? keys = some w ∧ w.entries.get? key = some x := by
  rw [reach?_append] at h
  obtain ⟨w, hw, hx⟩ := Option.bind_eq_some_iff.1 h
  exact ⟨w, hw, reach?_singleton key w ▸ hx⟩

@[simp] theorem reach?_nothing_cons (key : String) (keys : List String) :
    nothing.reach? (key :: keys) = none := rfl

@[simp] theorem entries_table (origin : Option Origin) (es : Entries) :
    (Configuration.table origin es).entries = es := rfl

/-- What a path leads to below a key, where no entry counts as nothing. -/
theorem reach?_getD_nothing {keys : List String} (hne : keys ≠ []) (o : Option Configuration) :
    (o.getD nothing).reach? keys = o.bind (reach? keys) := by
  cases o with
  | some v => rfl
  | none =>
    cases keys with
    | nil => exact absurd rfl hne
    | cons key keys => rfl

/-- Nothing is also what lies at the end of any path from nothing. -/
theorem getD_reach?_getD_nothing (keys : List String) (o : Option Configuration) :
    ((o.getD nothing).reach? keys).getD nothing = (o.bind (reach? keys)).getD nothing := by
  cases o with
  | some v => rfl
  | none => cases keys <;> rfl

theorem distinct_table {origin : Option Origin} {es : Entries} :
    (table origin es).Distinct ↔ es.Distinct := Iff.rfl

theorem Entries.Distinct.of_get? {key : String} {v : Configuration} :
    {es : Entries} → es.Distinct → es.get? key = some v → Configuration.Distinct v
  | .nil, _, h => by simp [Entries.get?] at h
  | .cons k w tail, hd, h => by
      simp only [Entries.Distinct] at hd
      by_cases hk : k = key
      · simp only [Entries.get?, hk, if_true, Option.some.injEq] at h
        exact h ▸ hd.2.1
      · simp only [Entries.get?, hk, if_false] at h
        exact hd.2.2.of_get? h

/-! ### Tables over tables -/

/-- What is under a key once entries are laid over others: the value on top laid over
    the one below, or else the one below. -/
theorem Entries.get?_laidOver (key : String) :
    {es : Entries} → es.Distinct → (below : Entries) →
      (es.laidOver below).get? key =
        match es.get? key with
        | none => below.get? key
        | some v => some (v.laidOver ((below.get? key).getD nothing))
  | .nil, _, below => by simp [Entries.laidOver, Entries.get?]
  | .cons k v tail, hd, below => by
      simp only [Entries.Distinct] at hd
      rw [Entries.laidOver, Entries.get?_laidOver key hd.2.2]
      by_cases hk : k = key
      · -- the tail does not have the key, and finds below what this entry has left there
        subst hk
        simp [hd.1, Entries.get?, Entries.get?_alter_self]
      · simp only [Entries.get?, hk, if_false]
        rw [Entries.get?_alter_of_ne (Ne.symm hk)]

/-- What a path leads to in an overlay: what it leads to on top, laid over what it
    leads to below, or else what it leads to below. -/
theorem reach?_laidOver {keys : List String} {v below : Configuration} (hv : v.Distinct)
    (hclear : v.Clear keys) :
    (v.laidOver below).reach? keys =
      match v.reach? keys with
      | none => below.reach? keys
      | some x => some (x.laidOver ((below.reach? keys).getD nothing)) := by
  induction keys generalizing v below with
  | nil => rfl
  | cons key keys ih =>
    obtain ⟨htable, hnext⟩ := hclear
    cases v with
    | scalar origin s => cases htable
    | array origin xs => cases htable
    | table origin es =>
      simp only [reach?_cons, laidOver, entries_table] at hnext ⊢
      rw [Entries.get?_laidOver key hv]
      cases hget : es.get? key with
      | none => rfl
      | some x =>
        simp only [Option.bind_some, ih (Entries.Distinct.of_get? hv hget) (hnext x hget)]
        cases hx : x.reach? keys with
        | none =>
          -- every path that ends here leads somewhere, so this one goes on
          have hne : keys ≠ [] := by rintro rfl; cases hx
          exact reach?_getD_nothing hne _
        | some y => simp only [getD_reach?_getD_nothing]

theorem isTable_laidOver {v : Configuration} (h : v.isTable) (below : Configuration) :
    (v.laidOver below).isTable := by
  cases v with
  | scalar origin s => cases h
  | array origin xs => cases h
  | table origin es => rfl

/-! ### Overlays at a path -/

section Alter

variable (g : Configuration → Configuration) (v : Configuration)

/-- The end of the path is altered. -/
theorem reach?_alter_self (keys : List String) :
    (alter g (keys.map .key) v).reach? keys = some (g ((v.reach? keys).getD nothing)) := by
  induction keys generalizing v with
  | nil => rfl
  | cons key keys ih =>
    simp only [List.map_cons, alter, reach?_cons, entries_table, Entries.get?_alter_self,
      Option.bind_some, ih, getD_reach?_getD_nothing]

/-- A path that the steps part from leads to what it led to before. -/
theorem reach?_alter_of_beside {steps : List Step} {others : List String}
    (h : Beside steps others) : (alter g steps v).reach? others = v.reach? others := by
  induction steps generalizing v others with
  | nil => cases h
  | cons step steps ih =>
    cases others with
    | nil => exact absurd h (not_beside_nil _)
    | cons other others =>
      cases step with
      | index place => cases h
      | key name =>
        simp only [alter, reach?_cons, entries_table]
        by_cases hname : other = name
        · subst hname
          have hrest : Beside steps others := h.resolve_left (fun hne => hne rfl)
          have hne : others ≠ [] := by
            rintro rfl
            exact not_beside_nil _ hrest
          rw [Entries.get?_alter_self, Option.bind_some, ih _ hrest, reach?_getD_nothing hne]
        · rw [Entries.get?_alter_of_ne hname]

/-- So does one apart from the altered path. -/
theorem reach?_alter_of_apart {keys others : List String} (h : Apart keys others) :
    (alter g (keys.map .key) v).reach? others = v.reach? others :=
  reach?_alter_of_beside g v h.beside

/-- On the way to its end there are tables. -/
theorem reach?_alter_of_prefix {keys others : List String} (h : others <+: keys)
    (hne : others ≠ keys) :
    ∃ x, (alter g (keys.map .key) v).reach? others = some x ∧ x.isTable := by
  induction keys generalizing v others with
  | nil => exact absurd (List.prefix_nil.1 h) hne
  | cons key keys ih =>
    cases others with
    | nil => exact ⟨_, rfl, rfl⟩
    | cons other others =>
      obtain ⟨rfl, hrest⟩ := List.cons_prefix_cons.1 h
      have hrestne : others ≠ keys := fun heq => hne (heq ▸ rfl)
      obtain ⟨x, hx, htable⟩ := ih ((v.entries.get? other).getD nothing) hrest hrestne
      refine ⟨x, ?_, htable⟩
      simp only [List.map_cons, alter, reach?_cons, entries_table, Entries.get?_alter_self,
        Option.bind_some, hx]

end Alter

/-! ### The way to a path -/

theorem clear_iff {keys : List String} {v : Configuration} :
    v.Clear keys ↔
      ∀ others x, others <+: keys → others ≠ keys → v.reach? others = some x → x.isTable := by
  induction keys generalizing v with
  | nil => exact ⟨fun _ others x h hne => absurd (List.prefix_nil.1 h) hne, fun _ => trivial⟩
  | cons key keys ih =>
    constructor
    · rintro ⟨htable, hnext⟩ others x h hne hx
      cases others with
      | nil => exact Option.some.inj hx ▸ htable
      | cons other others =>
        obtain ⟨rfl, hrest⟩ := List.cons_prefix_cons.1 h
        obtain ⟨y, hy, hyx⟩ := Option.bind_eq_some_iff.1 hx
        exact ih.1 (hnext y hy) others x hrest (fun heq => hne (heq ▸ rfl)) hyx
    · intro h
      refine ⟨h [] v List.nil_prefix (by simp) rfl, fun y hy => ih.2 fun others x hpre hne hx => ?_⟩
      refine h (key :: others) x (List.cons_prefix_cons.2 ⟨rfl, hpre⟩)
        (fun heq => hne (List.cons.inj heq).2) ?_
      rw [reach?_cons, hy]
      exact hx

theorem Clear.of_prefix {keys others : List String} {v : Configuration} (hv : v.Clear keys)
    (h : others <+: keys) : v.Clear others := by
  refine clear_iff.2 fun between x hpre hne hx => ?_
  refine clear_iff.1 hv between x (hpre.trans h) (fun heq => hne ?_) hx
  exact hpre.eq_of_length_le (heq ▸ h.length_le)

/-- An overlay of values whose way is clear leaves it clear. -/
theorem Clear.laidOver {keys : List String} {v below : Configuration} (hd : v.Distinct)
    (hv : v.Clear keys) (hbelow : below.Clear keys) : (v.laidOver below).Clear keys := by
  refine clear_iff.2 fun others x hpre hne hx => ?_
  rw [reach?_laidOver hd (hv.of_prefix hpre)] at hx
  cases hget : v.reach? others with
  | none =>
    rw [hget] at hx
    exact clear_iff.1 hbelow others x hpre hne hx
  | some y =>
    rw [hget] at hx
    have hy : y.isTable := clear_iff.1 hv others y hpre hne hget
    exact Option.some.inj hx ▸ isTable_laidOver hy _

/-- An overlay at a path leaves the way to it clear, and to those apart from it. -/
theorem Clear.alter {keys others : List String} {v : Configuration}
    (g : Configuration → Configuration) (hv : v.Clear others)
    (h : keys = others ∨ Apart keys others) : (alter g (keys.map .key) v).Clear others := by
  refine clear_iff.2 fun between x hpre hne hx => ?_
  -- on the way to the altered place there are tables now, elsewhere nothing has changed
  by_cases hbetween : between <+: keys
  · have hproper : between ≠ keys := by
      rintro rfl
      rcases h with heq | hapart
      · exact hne heq
      · exact hapart.1 hpre
    obtain ⟨y, hy, htable⟩ := reach?_alter_of_prefix g v hbetween hproper
    exact Option.some.inj (hy.symm.trans hx) ▸ htable
  · have hapart : Apart keys between := by
      refine ⟨fun hkeys => ?_, hbetween⟩
      rcases h with rfl | hapart
      · exact hne (hpre.eq_of_length_le hkeys.length_le)
      · exact hapart.1 (hkeys.trans hpre)
    rw [reach?_alter_of_apart g v hapart] at hx
    exact clear_iff.1 hv between x hpre hne hx

/-! ### Layers of plain keys -/

/-- A key that names an entry and no path. -/
def Path.IsPlain (key : String) : Prop := key ≠ "" ∧ key.toList.all Path.isNameChar

instance (key : String) : Decidable (Path.IsPlain key) :=
  inferInstanceAs (Decidable (_ ∧ _))

theorem Path.parse_of_isPlain {key : String} (h : Path.IsPlain key) :
    Path.parse key = [.key key] := by
  have hall : key.toList.takeWhile Path.isNameChar = key.toList :=
    List.takeWhile_eq_self_iff.2 (List.all_eq_true.1 h.2)
  have hrest : key.toList.dropWhile Path.isNameChar = [] :=
    List.dropWhile_eq_nil_iff.2 (List.all_eq_true.1 h.2)
  have hne : key.toList ≠ [] := fun hnil => h.1 (String.toList_eq_nil_iff.1 hnil)
  simp [Path.parse, Path.steps?, hall, hrest, hne]

/-- A layer of plain keys is laid over as one table. -/
theorem withLayer_toList (own origin : Option Origin) (below : Entries) :
    (es : Entries) → (∀ p ∈ es.toList, Path.IsPlain p.1) →
      withLayer (.table origin below) es.toList = (table own es).laidOver (.table origin below)
  | .nil, _ => rfl
  | .cons key value tail, h => by
      simp only [Entries.toList, List.forall_mem_cons] at h
      let altered := below.alter key fun old => value.laidOver old
      calc withLayer (.table origin below) (Entries.cons key value tail).toList
          = withLayer ((table origin below).assign (Path.parse key) value) tail.toList := rfl
        _ = withLayer (table origin altered) tail.toList := by
              rw [Path.parse_of_isPlain h.1]
              rfl
        _ = (table own tail).laidOver (table origin altered) :=
              withLayer_toList own origin altered tail h.2
        _ = (table own (.cons key value tail)).laidOver (.table origin below) := rfl

end Configuration

end PartyLine
