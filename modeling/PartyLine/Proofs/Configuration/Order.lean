import PartyLine.Proofs.Configuration.Same

/-!
# Layers in any order

A loader takes the entries of a file in an order of its own, and lays each at the path that its
key is. Where a leaf of one is in the way of a leaf of another, the later one has the last word, so
that the order decides: `log_level` and `log_level.part` leave a text or a table, whichever comes
last. Where the paths of all leaves part, each at a name or at a place counted from the start of
an array, none of them finds what another has left, and all orders come to the same.

A layer is laid over leaf by leaf (`withLayer_eq_leaves`), two leaves whose paths part may be laid
in either order (`agree_swap`), and any order of a layer is reached by such exchanges.

* `Configuration.leaves`, `Configuration.layerLeaves`: what a value or a layer puts in the place
  of what is below, with the paths;
* `Configuration.Parted`: two paths that part;
* `Configuration.Undisputed`: layers in which no leaf is in the way of another;
* `Configuration.agree_swap`: changes at parted paths may be made in either order;
* `Configuration.Orderless.withLayer_perm`: so may an undisputed layer be laid over in any order;
* `Configuration.undisputed_toList`: a table of plain keys is such a layer.
-/

namespace PartyLine

namespace Configuration

/-! ### Paths that part -/

/-- Two paths that part, at different names or at different places of an array. A place that is
    counted from the end is another one in a longer array, and no other place parts from it. -/
def Parted : List Step → List Step → Prop
  | .key name :: steps, .key other :: others => name ≠ other ∨ Parted steps others
  | .index place :: steps, .index other :: others =>
      (0 ≤ place ∧ 0 ≤ other ∧ place ≠ other) ∨ (place = other ∧ Parted steps others)
  | _, _ => False

instance decidableParted : (steps others : List Step) → Decidable (Parted steps others)
  | .key name :: steps, .key other :: others =>
      letI := decidableParted steps others
      inferInstanceAs (Decidable (name ≠ other ∨ Parted steps others))
  | .index place :: steps, .index other :: others =>
      letI := decidableParted steps others
      inferInstanceAs (Decidable
        ((0 ≤ place ∧ 0 ≤ other ∧ place ≠ other) ∨ (place = other ∧ Parted steps others)))
  | [], _ | .key _ :: _, [] | .index _ :: _, [] | .key _ :: _, .index _ :: _
  | .index _ :: _, .key _ :: _ => .isFalse id

mutual

/-- What a value puts in the place of what is below, with the paths inside it: its scalars and
    arrays, and tables without entries, which need a table below them. -/
def leaves : Configuration → List (List Step × Configuration)
  | .table _ (.cons key value tail) =>
      value.leaves.map (fun leaf => (.key key :: leaf.1, leaf.2)) ++ tail.leaves
  | v => [([], v)]

/-- The leaves of all entries. -/
def Entries.leaves : Entries → List (List Step × Configuration)
  | .nil => []
  | .cons key value tail =>
      value.leaves.map (fun leaf => (.key key :: leaf.1, leaf.2)) ++ tail.leaves

end

/-- The leaves of the values of a layer, with their paths from the keys on. -/
def layerLeaves (layer : List (String × Configuration)) : List (List Step × Configuration) :=
  layer.flatMap fun p => p.2.leaves.map fun leaf => (Path.parse p.1 ++ leaf.1, leaf.2)

/-- A layer in which no leaf is at the place of another one, or in its way. -/
def Undisputed (layer : List (String × Configuration)) : Prop :=
  (layerLeaves layer).Pairwise fun leaf other => Parted leaf.1 other.1

instance (layer : List (String × Configuration)) : Decidable (Undisputed layer) :=
  inferInstanceAs (Decidable (List.Pairwise _ _))

theorem Parted.symm {steps others : List Step} (h : Parted steps others) :
    Parted others steps := by
  induction steps generalizing others with
  | nil => cases h
  | cons step steps ih =>
    cases others with
    | nil => cases step <;> cases h
    | cons other others =>
      cases step with
      | key name =>
        cases other with
        | key => exact h.imp Ne.symm ih
        | index => cases h
      | index place =>
        cases other with
        | key => cases h
        | index =>
          rcases h with ⟨hplace, hother, hne⟩ | ⟨heq, h⟩
          · exact .inl ⟨hother, hplace, hne.symm⟩
          · exact .inr ⟨heq.symm, ih h⟩

section Swap

variable {v w : Configuration} {xs ys : List Configuration} {es es' : Entries}
  {g h : Configuration → Configuration}

theorem Entries.alter_alter (name : String) (g h : Configuration → Configuration) :
    (es : Entries) → (es.alter name h).alter name g = es.alter name fun v => g (h v)
  | .nil => by simp [Entries.alter]
  | .cons k v tail => by
      by_cases hk : k = name
      · simp [Entries.alter, hk]
      · simp [Entries.alter, hk, alter_alter name g h tail]

/-- Two entries may be changed in either order. -/
theorem Entries.Same.swap (hes : es.Same es') (hg : Agree g g) (hh : Agree h h)
    {name other : String} (hne : name ≠ other) :
    ((es.alter other h).alter name g).Same ((es'.alter name g).alter other h) where
  length := by
    simp only [toList_length_alter, get?_alter_of_ne hne, get?_alter_of_ne hne.symm, hes.length,
      isSome_eq (hes.get? name), isSome_eq (hes.get? other)]
    omega
  get? key := by
    by_cases hname : key = name
    · subst hname
      rw [get?_alter_self, get?_alter_of_ne hne, get?_alter_of_ne hne, get?_alter_self]
      exact .some (hg _ _ (rel_getD (hes.get? key)))
    · rw [get?_alter_of_ne hname]
      by_cases hother : key = other
      · subst hother
        rw [get?_alter_self, get?_alter_self, get?_alter_of_ne hname]
        exact .some (hh _ _ (rel_getD (hes.get? key)))
      · rw [get?_alter_of_ne hother, get?_alter_of_ne hother, get?_alter_of_ne hname]
        exact hes.get? key

/-- What is at each place once the item at one has been changed: the array reaches up to it. -/
theorem getElem?_alterAt (n : Nat) (g : Configuration → Configuration) (xs : List Configuration)
    (k : Nat) : (alterAt n g xs)[k]? =
      if k = n then some (g (xs[n]?.getD nothing))
      else if k < n then some (xs[k]?.getD nothing) else xs[k]? := by
  have hn : (0 : Int) ≤ n := Int.natCast_nonneg n
  simp only [alterAt, hn, if_true, Int.toNat_natCast, List.getElem?_modify, List.getElem?_append,
    List.getElem?_replicate]
  rcases Nat.lt_trichotomy k n with hk | rfl | hk
  · have hne : n ≠ k := Nat.ne_of_gt hk
    have hpad : k - xs.length < n + 1 - xs.length ∨ k < xs.length := by omega
    by_cases hlength : k < xs.length
    · simp [hlength, hk, hne, hne.symm]
    · simp [hlength, hk, hne, hne.symm, hpad.resolve_right hlength]
  · by_cases hlength : k < xs.length
    · simp [hlength]
    · have hpad : k - xs.length < k + 1 - xs.length := by omega
      simp [hlength, hpad]
  · have hne : n ≠ k := Nat.ne_of_lt hk
    by_cases hlength : k < xs.length
    · simp [hlength, Nat.lt_asymm hk, hne, hne.symm]
    · have hpad : ¬ k - xs.length < n + 1 - xs.length := by omega
      simp [hlength, hpad, Nat.lt_asymm hk, hne, hne.symm]

theorem getD_alterAt (n : Nat) (g : Configuration → Configuration) (xs : List Configuration)
    (k : Nat) : (alterAt n g xs)[k]?.getD nothing =
      if k = n then g (xs[n]?.getD nothing) else xs[k]?.getD nothing := by
  rw [getElem?_alterAt]
  split
  · rfl
  · split <;> rfl

/-- A place counted from the end: in the array, or before its start. -/
theorem alterAt_of_neg {place : Int} (hplace : place < 0) (g : Configuration → Configuration)
    (xs : List Configuration) : alterAt place g xs =
      if 0 ≤ place + xs.length then xs.modify (place + xs.length).toNat g
      else g nothing :: List.replicate ((place + xs.length).natAbs - 1) nothing ++ xs := by
  rw [alterAt, if_neg (Int.not_le.2 hplace)]
  split
  · have hpad : (place + xs.length).toNat + 1 - xs.length = 0 := by omega
    rw [hpad, List.replicate_zero, List.append_nil]
  · rfl

/-- An item may be changed twice at once, wherever its place is counted from. -/
theorem alterAt_alterAt (place : Int) (g h : Configuration → Configuration)
    (xs : List Configuration) :
    alterAt place g (alterAt place h xs) = alterAt place (fun v => g (h v)) xs := by
  by_cases hplace : 0 ≤ place
  · obtain ⟨n, rfl⟩ := Int.eq_ofNat_of_zero_le hplace
    refine List.ext_getElem? fun k => ?_
    simp only [getElem?_alterAt, if_true, Option.getD_some]
    split
    · rfl
    · split <;> rfl
  · have hneg := Int.not_le.1 hplace
    rw [alterAt_of_neg hneg h, alterAt_of_neg hneg fun v => g (h v), alterAt_of_neg hneg g]
    by_cases hinside : 0 ≤ place + xs.length
    · simp only [hinside, if_true, List.length_modify, List.modify_modify_eq]
      rfl
    · -- the array has been filled up so far that the place is now its first
      have hfirst : place + ((h nothing :: List.replicate
          ((place + xs.length).natAbs - 1) nothing ++ xs).length : Int) = 0 := by
        simp only [List.cons_append, List.length_cons, List.length_append, List.length_replicate]
        omega
      simp only [hinside, if_false, hfirst]
      rfl

/-- Two items at places counted from the start may be changed in either order. -/
theorem SameItems.swap (hxs : SameItems xs ys) (hg : Agree g g) (hh : Agree h h) {m n : Nat}
    (hne : m ≠ n) : SameItems (alterAt m g (alterAt n h xs)) (alterAt n h (alterAt m g ys)) := by
  intro k
  rw [getElem?_alterAt m g (alterAt n h xs), getElem?_alterAt n h (alterAt m g ys)]
  simp only [getD_alterAt, hne, hne.symm, if_false]
  simp only [getElem?_alterAt]
  have hitem (i : Nat) := rel_getD (hxs i)
  by_cases hm : k = m
  · subst hm
    by_cases hlt : k < n <;> simpa [hne, hlt] using hg _ _ (hitem k)
  · by_cases hn : k = n
    · subst hn
      by_cases hlt : k < m <;> simpa [hm, hlt] using hh _ _ (hitem k)
    · -- either array reaches beyond this place, or it is as it was
      by_cases hltm : k < m
      · by_cases hltn : k < n <;> simpa [hm, hn, hltm, hltn] using hitem k
      · by_cases hltn : k < n
        · simpa [hm, hn, hltm, hltn] using hitem k
        · simpa [hm, hn, hltm, hltn] using hxs k

/-- Changes at the ends of parted paths may be made in either order. -/
theorem agree_swap {steps others : List Step} (hparted : Parted steps others) (hg : Agree g g)
    (hh : Agree h h) : Agree (fun v => alter g steps (alter h others v))
      fun v => alter h others (alter g steps v) := by
  induction steps generalizing others with
  | nil => cases hparted
  | cons step steps ih =>
    intro v w hvw
    cases others with
    | nil => cases step <;> cases hparted
    | cons other others =>
      have hg' := agree_alter hg steps
      have hh' := agree_alter hh others
      cases step with
      | key name =>
        cases other with
        | index place => cases hparted
        | key other =>
          -- two changes of one entry are one change, which the rest of the paths decide
          suffices hentries : ((v.entries.alter other (alter h others)).alter name
              (alter g steps)).Same ((w.entries.alter name (alter g steps)).alter other
              (alter h others)) by
            obtain ⟨hlength, hget⟩ := hentries
            simp only [alter, tableOrigin_table, entries_table, hvw.tableOrigin_eq]
            exact .table hlength hget
          by_cases hname : name = other
          · subst hname
            rw [Entries.alter_alter, Entries.alter_alter]
            exact hvw.entries.alter (ih (hparted.resolve_left (fun hne => hne rfl))) name
          · exact hvw.entries.swap hg' hh' hname
      | index place =>
        cases other with
        | key name => cases hparted
        | index other =>
          suffices hitems : SameItems (alterAt place (alter g steps) (alterAt other
              (alter h others) v.items.toList)) (alterAt other (alter h others) (alterAt place
              (alter g steps) w.items.toList)) by
            simp only [alter, arrayOrigin_array, items_array, hvw.arrayOrigin_eq]
            refine same_array ?_
            simpa only [Items.toList_ofList] using hitems
          -- of places counted from the start the one does not move the other
          rcases hparted with ⟨hplace, hother, hne⟩ | ⟨rfl, hparted⟩
          · obtain ⟨m, rfl⟩ := Int.eq_ofNat_of_zero_le hplace
            obtain ⟨n, rfl⟩ := Int.eq_ofNat_of_zero_le hother
            exact hvw.items.swap hg' hh' fun heq => hne (congrArg Int.ofNat heq)
          · rw [alterAt_alterAt, alterAt_alterAt]
            exact hvw.items.alter (ih hparted) place

/-! ### Leaf by leaf -/

/-- Laying one leaf over. -/
def lay (v : Configuration) (leaf : List Step × Configuration) : Configuration :=
  v.assign leaf.1 leaf.2

theorem Same.foldl_lay (hvw : Same v w) (leaves : List (List Step × Configuration)) :
    Same (leaves.foldl lay v) (leaves.foldl lay w) := by
  induction leaves generalizing v w with
  | nil => exact hvw
  | cons leaf leaves ih => exact ih (hvw.assign leaf.1 leaf.2)

theorem alter_append (g : Configuration → Configuration) (steps others : List Step)
    (v : Configuration) : alter g (steps ++ others) v = alter (alter g others) steps v := by
  induction steps generalizing v with
  | nil => rfl
  | cons step steps ih =>
    have hsteps : alter g (steps ++ others) = alter (alter g others) steps := funext ih
    cases step <;> simp only [List.cons_append, alter, hsteps]

theorem alter_alter (g h : Configuration → Configuration) (steps : List Step)
    (v : Configuration) : alter g steps (alter h steps v) = alter (fun v => g (h v)) steps v := by
  induction steps generalizing v with
  | nil => rfl
  | cons step steps ih =>
    have hsteps : (fun v => alter g steps (alter h steps v)) = alter (fun v => g (h v)) steps :=
      funext ih
    cases step with
    | key name =>
      simp only [alter, tableOrigin_table, entries_table, Entries.alter_alter, hsteps]
    | index place =>
      simp only [alter, arrayOrigin_array, items_array, Items.toList_ofList, alterAt_alterAt,
        hsteps]

/-- Leaves inside the value at the end of some steps are laid over that value. -/
theorem foldl_lay_map {leaves : List (List Step × Configuration)} (hne : leaves ≠ [])
    (steps : List Step) (v : Configuration) :
    (leaves.map fun leaf => (steps ++ leaf.1, leaf.2)).foldl lay v =
      alter (fun old => leaves.foldl lay old) steps v := by
  induction leaves generalizing v with
  | nil => exact absurd rfl hne
  | cons leaf leaves ih =>
    have hfirst : lay v (steps ++ leaf.1, leaf.2) = alter (lay · leaf) steps v :=
      alter_append _ steps leaf.1 v
    cases leaves with
    | nil => exact hfirst
    | cons next leaves =>
      rw [List.map_cons, List.foldl_cons, hfirst, ih (List.cons_ne_nil _ _), alter_alter]
      rfl

theorem leaves_ne_nil (v : Configuration) : v.leaves ≠ [] := by
  cases v with
  | scalar | array => exact List.cons_ne_nil _ _
  | table origin es =>
    cases es with
    | nil => exact List.cons_ne_nil _ _
    | cons key value tail =>
      intro hnil
      obtain ⟨hvalue, -⟩ := List.append_eq_nil_iff.1 hnil
      exact leaves_ne_nil value (List.map_eq_nil_iff.1 hvalue)

/-- The leaves of an entry are laid over the entry below. -/
theorem foldl_lay_key (value : Configuration) (key : String) (old : Configuration) :
    (value.leaves.map fun leaf => (.key key :: leaf.1, leaf.2)).foldl lay old =
      .table old.tableOrigin
        (old.entries.alter key fun below => value.leaves.foldl lay below) :=
  foldl_lay_map (leaves_ne_nil value) [.key key] old

mutual

/-- A value is laid over leaf by leaf. -/
theorem foldl_lay_leaves (v old : Configuration) : v.leaves.foldl lay old = v.laidOver old := by
  cases v with
  | scalar | array => rfl
  | table origin es =>
    cases es with
    | nil => rfl
    | cons key value tail =>
      have hvalue : (fun below => value.leaves.foldl lay below) =
          fun below => value.laidOver below :=
        funext (foldl_lay_leaves value)
      show (value.leaves.map (fun leaf => (Step.key key :: leaf.1, leaf.2)) ++
        tail.leaves).foldl lay old = _
      rw [List.foldl_append, foldl_lay_key, hvalue, Entries.foldl_lay_leaves tail]
      rfl

theorem Entries.foldl_lay_leaves (es : Entries) (origin : Option Origin) (below : Entries) :
    es.leaves.foldl lay (table origin below) = table origin (es.laidOver below) := by
  cases es with
  | nil => rfl
  | cons key value tail =>
    have hvalue : (fun below => value.leaves.foldl lay below) = fun below => value.laidOver below :=
      funext (Configuration.foldl_lay_leaves value)
    show (value.leaves.map (fun leaf => (Step.key key :: leaf.1, leaf.2)) ++
      tail.leaves).foldl lay (table origin below) = _
    rw [List.foldl_append, foldl_lay_key, hvalue]
    exact Entries.foldl_lay_leaves tail origin _

end

/-- A layer is laid over leaf by leaf. -/
theorem withLayer_eq_leaves (v : Configuration) (layer : List (String × Configuration)) :
    v.withLayer layer = (layerLeaves layer).foldl lay v := by
  induction layer generalizing v with
  | nil => rfl
  | cons p layer ih =>
    have hfirst : (p.2.leaves.map fun leaf => (Path.parse p.1 ++ leaf.1, leaf.2)).foldl lay v =
        v.assign (Path.parse p.1) p.2 := by
      rw [foldl_lay_map (leaves_ne_nil p.2), funext (foldl_lay_leaves p.2)]
      rfl
    have hlayer : layerLeaves (p :: layer) =
        (p.2.leaves.map fun leaf => (Path.parse p.1 ++ leaf.1, leaf.2)) ++ layerLeaves layer :=
      List.flatMap_cons
    rw [hlayer, List.foldl_append, hfirst]
    exact ih _

/-- A reader that finds the same in values that are the same. -/
def Orderless {α : Type} (read : Configuration → α) : Prop :=
  ∀ v w : Configuration, Same v w → read v = read w

/-- For such a reader leaves whose paths part may be laid in any order. -/
theorem Orderless.foldl_lay_perm {α : Type} {read : Configuration → α} (hread : Orderless read)
    {leaves leaves' : List (List Step × Configuration)} (hperm : leaves.Perm leaves')
    (hparted : leaves.Pairwise fun leaf other => Parted leaf.1 other.1) (hvw : Same v w) :
    read (leaves.foldl lay v) = read (leaves'.foldl lay w) := by
  induction hperm generalizing v w with
  | nil => exact hread v w hvw
  | cons leaf _ ih => exact ih hparted.of_cons (hvw.assign leaf.1 leaf.2)
  | swap leaf other leaves =>
    have hparted := (List.pairwise_cons.1 hparted).1 leaf List.mem_cons_self
    have hswapped :=
      agree_swap hparted.symm (agree_laidOver leaf.2) (agree_laidOver other.2) v w hvw
    exact hread _ _ (hswapped.foldl_lay leaves)
  | trans hperm _ ih ih' =>
    have hparted' := (hperm.pairwise_iff Parted.symm).1 hparted
    exact (ih hparted hvw).trans (ih' hparted' (.refl w))

/-- So may an undisputed layer. -/
theorem Orderless.withLayer_perm {α : Type} {read : Configuration → α} (hread : Orderless read)
    {layer layer' : List (String × Configuration)} (hperm : layer.Perm layer')
    (hlayer : Undisputed layer) (v : Configuration) :
    read (v.withLayer layer) = read (v.withLayer layer') := by
  rw [withLayer_eq_leaves, withLayer_eq_leaves]
  exact hread.foldl_lay_perm (hperm.flatMap_right _) hlayer (.refl v)

end Swap

/-! ### Plain keys -/

/-- The leaves of entries begin with their keys. -/
theorem Entries.exists_of_mem_leaves {key : String} {leaf : List Step × Configuration}
    (es : Entries) (hnone : es.get? key = none) (h : leaf ∈ es.leaves) :
    ∃ other steps, leaf.1 = .key other :: steps ∧ key ≠ other := by
  cases es with
  | nil => cases h
  | cons k value tail =>
    by_cases hk : k = key
    · simp [get?, hk] at hnone
    · simp only [get?, hk, if_false] at hnone
      rcases List.mem_append.1 h with h | h
      · obtain ⟨inner, -, rfl⟩ := List.mem_map.1 h
        exact ⟨k, inner.1, rfl, Ne.symm hk⟩
      · exact exists_of_mem_leaves tail hnone h

/-- Leaves that part, part under a key too, and from those under other keys. -/
theorem pairwise_append {key : String} {leaves : List (List Step × Configuration)} {tail : Entries}
    (hleaves : leaves.Pairwise fun leaf other => Parted leaf.1 other.1)
    (htail : tail.leaves.Pairwise fun leaf other => Parted leaf.1 other.1)
    (hnone : tail.get? key = none) :
    (leaves.map (fun leaf => (.key key :: leaf.1, leaf.2)) ++ tail.leaves).Pairwise
      fun leaf other => Parted leaf.1 other.1 := by
  refine List.pairwise_append.2 ⟨?_, htail, fun leaf hleaf other hother => ?_⟩
  · exact List.pairwise_map.2 (hleaves.imp .inr)
  · obtain ⟨inner, -, rfl⟩ := List.mem_map.1 hleaf
    obtain ⟨name, steps, hsteps, hne⟩ := tail.exists_of_mem_leaves hnone hother
    rw [hsteps]
    exact .inl hne

mutual

/-- In a value without repeated keys no leaf is in the way of another. -/
theorem Distinct.pairwise_leaves {v : Configuration} (hd : v.Distinct) :
    v.leaves.Pairwise fun leaf other => Parted leaf.1 other.1 := by
  cases v with
  | scalar | array => exact List.pairwise_singleton _ _
  | table origin es =>
    cases es with
    | nil => exact List.pairwise_singleton _ _
    | cons key value tail => exact Entries.Distinct.pairwise_leaves hd

theorem Entries.Distinct.pairwise_leaves {es : Entries} (hd : es.Distinct) :
    es.leaves.Pairwise fun leaf other => Parted leaf.1 other.1 := by
  cases es with
  | nil => exact .nil
  | cons key value tail =>
    obtain ⟨hnone, hvalue, htail⟩ := hd
    exact pairwise_append (Distinct.pairwise_leaves hvalue)
      (Entries.Distinct.pairwise_leaves htail) hnone

end

theorem layerLeaves_toList (es : Entries) (hplain : ∀ p ∈ es.toList, Path.IsPlain p.1) :
    layerLeaves es.toList = es.leaves := by
  cases es with
  | nil => rfl
  | cons key value tail =>
    obtain ⟨hkey, htail⟩ := List.forall_mem_cons.1 hplain
    have hrest : (tail.toList.flatMap fun p => p.2.leaves.map fun leaf =>
        (Path.parse p.1 ++ leaf.1, leaf.2)) = tail.leaves := layerLeaves_toList tail htail
    rw [layerLeaves, Entries.toList, List.flatMap_cons, hrest, Path.parse_of_isPlain hkey]
    rfl

/-- The entries of a table without repeated keys, of which none is a path, are such a layer. -/
theorem undisputed_toList {es : Entries} (hd : es.Distinct)
    (hplain : ∀ p ∈ es.toList, Path.IsPlain p.1) : Undisputed es.toList := by
  rw [Undisputed, layerLeaves_toList es hplain]
  exact hd.pairwise_leaves

end Configuration

end PartyLine
