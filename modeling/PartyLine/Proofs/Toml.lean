import PartyLine.Toml.Reader

/-!
# No key twice

Whatever text is a TOML document, no table in it has a key twice: every key is set by
`put`, which takes the place of what is there, and all else only looks for the table
to put it in.

Documents are drafts that grow line by line, and every change is made somewhere inside, at the end
of a path. A change of entries is followed inwards by the functions that look for the place
(`enter?`, `follow?`), each of which leaves no key twice if what it applies inside does not. Values
are read with fuel, and distinctness of what is read goes by induction on it (`Reader.Sound`).

* `Toml.Distinct`: no table has a key twice, at any depth;
* `Toml.Entries.Keeps`: a change of entries that leaves no key twice;
* `Toml.distinct_of_parse?`: the entries of a document.
-/

namespace PartyLine

namespace Toml

mutual

/-- No table has a key twice, at any depth. -/
def Distinct : Toml → Prop
  | .string _ | .integer _ | .float _ | .boolean _ | .datetime _ => True
  | .array items | .tables items => items.Distinct
  | .inline entries | .table _ entries => entries.Distinct

/-- `Distinct` of all items. -/
def Items.Distinct : Items → Prop
  | .nil => True
  | .cons head tail => Toml.Distinct head ∧ tail.Distinct

/-- `Distinct` of a table's entries. -/
def Entries.Distinct : Entries → Prop
  | .nil => True
  | .cons key value tail => tail.get? key = none ∧ Toml.Distinct value ∧ tail.Distinct

end

theorem distinct_table {form : Form} {es : Entries} :
    (table form es).Distinct ↔ es.Distinct := Iff.rfl

theorem Entries.distinct_nil : Entries.nil.Distinct := trivial

theorem distinct_tables {xs : Items} : (tables xs).Distinct ↔ xs.Distinct := Iff.rfl

/-! ### Items -/

namespace Items

theorem Distinct.push {last : Toml} (hlast : last.Distinct) :
    {xs : Items} → xs.Distinct → (xs.push last).Distinct
  | .nil, _ => ⟨hlast, trivial⟩
  | .cons _ _, h => ⟨h.1, Distinct.push hlast h.2⟩

theorem Distinct.alterLast? {g : Toml → Option Toml}
    (hg : ∀ v w, v.Distinct → g v = some w → w.Distinct) :
    {xs ys : Items} → xs.Distinct → xs.alterLast? g = some ys → ys.Distinct
  | .nil, _, _, h => by simp [Items.alterLast?] at h
  | .cons head .nil, ys, hxs, h => by
      simp only [Items.alterLast?, Option.map_eq_some_iff] at h
      obtain ⟨w, hw, rfl⟩ := h
      exact ⟨hg head w hxs.1 hw, trivial⟩
  | .cons head (.cons next tail), ys, hxs, h => by
      simp only [Items.alterLast?, Option.map_eq_some_iff] at h
      obtain ⟨zs, hzs, rfl⟩ := h
      exact ⟨hxs.1, Distinct.alterLast? hg hxs.2 hzs⟩

end Items

/-! ### Entries -/

namespace Entries

variable {key : String} {value : Toml} {es : Entries}

theorem get?_put_of_ne {other : String} (h : other ≠ key) :
    (es : Entries) → (es.put key value).get? other = es.get? other
  | .nil => by simp [put, get?, h.symm]
  | .cons k v tail => by
      by_cases hk : k = key
      · subst hk
        simp [put, get?, h.symm]
      · by_cases ho : k = other
        · simp [put, get?, ho, h]
        · simp [put, get?, hk, ho, get?_put_of_ne h tail]

theorem Distinct.of_get? : {es : Entries} → es.Distinct → es.get? key = some value →
    value.Distinct
  | .nil, _, h => by simp [get?] at h
  | .cons k v tail, hd, h => by
      by_cases hk : k = key
      · simp only [get?, hk, if_true, Option.some.injEq] at h
        exact h ▸ hd.2.1
      · simp only [get?, hk, if_false] at h
        exact hd.2.2.of_get? h

theorem Distinct.put (hvalue : value.Distinct) :
    {es : Entries} → es.Distinct → (es.put key value).Distinct
  | .nil, _ => ⟨rfl, hvalue, trivial⟩
  | .cons k v tail, h => by
      by_cases hk : k = key
      · subst hk
        simp only [Entries.put, if_true]
        exact ⟨h.1, hvalue, h.2.2⟩
      · simp only [Entries.put, hk, if_false]
        exact ⟨by rw [get?_put_of_ne hk]; exact h.1, h.2.1, h.2.2.put hvalue⟩

/-- A change of entries that leaves no key twice where there was none. -/
def Keeps (g : Entries → Option Entries) : Prop :=
  ∀ es es', es.Distinct → g es = some es' → es'.Distinct

theorem Keeps.enter? {made : Form} {allowed : Form → Bool}
    {g : Form → Entries → Option Entries} (hg : ∀ form, Keeps (g form)) :
    Keeps (enter? made allowed key g) := by
  intro es es' hes h
  simp only [Entries.enter?] at h
  split at h
  · simp only [Option.map_eq_some_iff] at h
    obtain ⟨inner, hinner, rfl⟩ := h
    exact hes.put (distinct_table.2 (hg made .nil inner distinct_nil hinner))
  · rename_i form inner hget
    have hinner : inner.Distinct := distinct_table.1 (hes.of_get? hget)
    split at h
    · simp only [Option.map_eq_some_iff] at h
      obtain ⟨after, hafter, rfl⟩ := h
      exact hes.put (distinct_table.2 (hg form inner after hinner hafter))
    · cases h
  · rename_i items hget
    have hitems : items.Distinct := distinct_tables.1 (hes.of_get? hget)
    simp only [Option.map_eq_some_iff] at h
    obtain ⟨after, hafter, rfl⟩ := h
    -- of several tables only the last one changes
    refine hes.put (distinct_tables.2 (hitems.alterLast? (fun v w hv hw => ?_) hafter))
    split at hw
    · rename_i form inner
      simp only [Option.map_eq_some_iff] at hw
      obtain ⟨inner', hinner', rfl⟩ := hw
      exact distinct_table.2 (hg form inner inner' (distinct_table.1 hv) hinner')
    · cases hw
  · cases h

theorem Keeps.follow? {g : Entries → Option Entries} (hg : Keeps g) :
    (keys : List String) → Keeps (follow? g keys)
  | [] => hg
  | _ :: keys => Keeps.enter? fun _ => Keeps.follow? hg keys

theorem keeps_openTable? : Keeps (openTable? key) := by
  intro es es' hes h
  have hnew : (table .header .nil).Distinct := Entries.distinct_nil
  simp only [openTable?] at h
  split at h
  · obtain rfl := Option.some.inj h
    exact hes.put hnew
  · rename_i inner hget
    obtain rfl := Option.some.inj h
    exact hes.put (distinct_table.2 (distinct_table.1 (hes.of_get? hget)))
  · cases h

theorem keeps_openElement? : Keeps (openElement? key) := by
  intro es es' hes h
  have hnew : (table .header .nil).Distinct := Entries.distinct_nil
  simp only [openElement?] at h
  split at h
  · obtain rfl := Option.some.inj h
    have hone : (tables (.cons (.table .header .nil) .nil)).Distinct := ⟨hnew, trivial⟩
    exact hes.put hone
  · rename_i items hget
    obtain rfl := Option.some.inj h
    exact hes.put (distinct_tables.2 ((distinct_tables.1 (hes.of_get? hget)).push hnew))
  · cases h

theorem keeps_assign? (hvalue : value.Distinct) (last : String) :
    (names : List String) → Keeps (assign? value names last)
  | [] => by
      intro es es' hes h
      simp only [assign?, add?] at h
      split at h
      · cases h
      · obtain rfl := Option.some.inj h
        exact hes.put hvalue
  | name :: names => by
      refine Keeps.enter? fun form es es' hes h => ?_
      split at h
      · cases h
      · exact keeps_assign? hvalue last names es es' hes h

end Entries

/-! ### Documents -/

namespace Reader

/-- A word stands for a scalar. -/
theorem distinct_of_word? {s : List Char} {v : Toml} (h : word? s = some v) : v.Distinct := by
  simp only [word?] at h
  split at h
  · exact Option.some.inj h ▸ trivial
  · exact Option.some.inj h ▸ trivial
  · simp only [Option.orElse_eq_orElse, Option.orElse_eq_or, Option.or_eq_some_iff,
      Option.map_eq_some_iff] at h
    rcases h with ⟨i, -, rfl⟩ | ⟨-, ⟨x, -, rfl⟩ | ⟨-, m, -, rfl⟩⟩ <;> exact trivial

/-- What the three readers of values yield with so much fuel. -/
structure Sound (fuel : Nat) : Prop where
  value {s : List Char} {v : Toml} {rest : List Char} :
    value? fuel s = some (v, rest) → v.Distinct
  items {s : List Char} {xs : Items} {rest : List Char} :
    items? fuel s = some (xs, rest) → xs.Distinct
  entries {es : Entries} {s : List Char} {es' : Entries} {rest : List Char} :
    es.Distinct → entries? fuel es s = some (es', rest) → es'.Distinct

variable {fuel : Nat}

theorem Sound.value_succ (hf : Sound fuel) {s : List Char} {v : Toml} {rest : List Char}
    (h : value? (fuel + 1) s = some (v, rest)) : v.Distinct := by
  simp only [value?] at h
  split at h
  · simp only [Option.map_eq_some_iff, Prod.mk.injEq, Prod.exists] at h
    obtain ⟨xs, _, hxs, rfl, -⟩ := h
    exact hf.items hxs
  · simp only [Option.map_eq_some_iff, Prod.mk.injEq, Prod.exists] at h
    obtain ⟨es, _, hes, rfl, -⟩ := h
    exact hf.entries Entries.distinct_nil hes
  · simp only [Option.map_eq_some_iff, Prod.mk.injEq, Prod.exists] at h
    obtain ⟨_, _, -, rfl, -⟩ := h
    exact trivial
  · simp only [Option.map_eq_some_iff, Prod.mk.injEq, Prod.exists] at h
    obtain ⟨_, _, -, rfl, -⟩ := h
    exact trivial
  · simp only [Option.map_eq_some_iff, Prod.mk.injEq] at h
    obtain ⟨_, hw, rfl, -⟩ := h
    exact distinct_of_word? hw

theorem Sound.items_succ (hf : Sound fuel) {s : List Char} {xs : Items} {rest : List Char}
    (h : items? (fuel + 1) s = some (xs, rest)) : xs.Distinct := by
  simp only [items?] at h
  split at h
  · simp only [Option.some.injEq, Prod.mk.injEq] at h
    exact h.1 ▸ trivial
  · simp only [Option.bind_eq_bind, Option.bind_eq_some_iff, Prod.exists] at h
    obtain ⟨x, s', hx, h⟩ := h
    split at h
    · simp only [Option.pure_def, Option.some.injEq, Prod.mk.injEq] at h
      exact h.1 ▸ ⟨hf.value hx, trivial⟩
    · simp only [Option.pure_def, Option.bind_eq_some_iff, Option.some.injEq, Prod.mk.injEq,
        Prod.exists] at h
      obtain ⟨xs', _, hxs', rfl, -⟩ := h
      exact ⟨hf.value hx, hf.items hxs'⟩
    · cases h

theorem Sound.entries_succ (hf : Sound fuel) {es : Entries} {s : List Char} {es' : Entries}
    {rest : List Char} (hes : es.Distinct) (h : entries? (fuel + 1) es s = some (es', rest)) :
    es'.Distinct := by
  simp only [entries?] at h
  split at h
  · simp only [Option.some.injEq, Prod.mk.injEq] at h
    exact h.1 ▸ hes
  · simp only [Option.bind_eq_bind, Option.bind_eq_some_iff, Prod.exists] at h
    obtain ⟨names, last, s', -, h⟩ := h
    split at h
    · simp only [Option.bind_eq_some_iff, Prod.exists] at h
      obtain ⟨x, s'', hx, after, hafter, h⟩ := h
      have hd : after.Distinct := Entries.keeps_assign? (hf.value hx) last names es after hes hafter
      split at h
      · simp only [Option.pure_def, Option.some.injEq, Prod.mk.injEq] at h
        exact h.1 ▸ hd
      · exact hf.entries hd h
      · cases h
    · cases h

theorem sound : (fuel : Nat) → Sound fuel
  | 0 => ⟨by simp [value?], by simp [items?], by simp [entries?]⟩
  | fuel + 1 => ⟨(sound fuel).value_succ, (sound fuel).items_succ, (sound fuel).entries_succ⟩

theorem distinct_of_header? {repeated : Bool} {d d' : Draft} {s rest : List Char}
    (hd : d.entries.Distinct) (h : header? repeated d s = some (d', rest)) :
    d'.entries.Distinct := by
  simp only [header?, Option.bind_eq_bind, Option.bind_eq_some_iff, Prod.exists] at h
  obtain ⟨names, last, _, -, h⟩ := h
  have hopen : Entries.Keeps fun es =>
      if repeated then es.openElement? last else es.openTable? last := by
    cases repeated with
    | false => exact Entries.keeps_openTable?
    | true => exact Entries.keeps_openElement?
  split at h
  all_goals
    simp only [Option.bind_eq_some_iff, Option.pure_def, Option.some.injEq, Prod.mk.injEq,
      reduceCtorEq, false_and, exists_false] at h
  all_goals
    obtain ⟨_, -, es, hes, rfl, -⟩ := h
    exact hopen.follow? names _ es hd hes

theorem distinct_of_assignment? {d d' : Draft} {s rest : List Char}
    (hd : d.entries.Distinct) (h : assignment? d s = some (d', rest)) :
    d'.entries.Distinct := by
  simp only [assignment?, Option.bind_eq_bind, Option.bind_eq_some_iff, Prod.exists] at h
  obtain ⟨names, last, _, -, h⟩ := h
  split at h
  · simp only [Option.bind_eq_some_iff, Prod.exists, Option.pure_def, Option.some.injEq,
      Prod.mk.injEq] at h
    obtain ⟨x, _, hx, es, hes, rfl, -⟩ := h
    have hset := Entries.keeps_assign? ((sound _).value hx) last names
    exact hset.follow? d.current _ es hd hes
  · cases h

/-- A line leaves no key twice. -/
theorem distinct_of_line? {d d' : Draft} {s rest : List Char}
    (hd : d.entries.Distinct) (h : line? d s = some (d', rest)) : d'.entries.Distinct := by
  simp only [line?] at h
  split at h
  · exact distinct_of_header? hd h
  · exact distinct_of_header? hd h
  · split at h
    · simp only [Option.some.injEq, Prod.mk.injEq] at h
      exact h.1 ▸ hd
    · split at h
      · simp only [Option.some.injEq, Prod.mk.injEq] at h
        exact h.1 ▸ hd
      · exact distinct_of_assignment? hd h

theorem distinct_of_document? {d' : Draft} :
    {fuel : Nat} → {d : Draft} → {s : List Char} → d.entries.Distinct →
      document? fuel d s = some d' → d'.entries.Distinct
  | _, d, [], hd, h => by
      simp only [document?, Option.some.injEq] at h
      exact h ▸ hd
  | 0, _, _ :: _, _, h => by simp [document?] at h
  | fuel + 1, d, c :: s, hd, h => by
      simp only [document?, Option.bind_eq_bind, Option.bind_eq_some_iff, Prod.exists] at h
      obtain ⟨next, _, hline, _, -, hrest⟩ := h
      exact distinct_of_document? (distinct_of_line? hd hline) hrest
end Reader

/-- No document has a key twice. -/
theorem distinct_of_parse? {text : String} {es : Entries} (h : parse? text = some es) :
    es.Distinct := by
  simp only [parse?, Option.map_eq_some_iff] at h
  obtain ⟨d, hd, rfl⟩ := h
  exact Reader.distinct_of_document? Entries.distinct_nil hd

end Toml

end PartyLine
