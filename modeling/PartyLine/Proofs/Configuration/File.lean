import PartyLine.Configuration.File
import PartyLine.Proofs.Configuration.Overlay
import PartyLine.Proofs.Toml

/-!
# Files have no key twice

A TOML document repeats no key, and of a JSON document only the last member with a key
counts. So the contents of a file are tables without repeated keys.

* `Configuration.Format.distinct_of_parse?`: the entries of a text in either format;
* `Configuration.Directory.exists_of_loadIfThere`: the layer of a file.
-/

namespace PartyLine

namespace Configuration

/-! ### TOML -/

theorem get?_entriesOfToml {origin : Option Origin} {key : String} :
    (es : Toml.Entries) → es.get? key = none → (entriesOfToml origin es).get? key = none
  | .nil, _ => rfl
  | .cons k v tail, h => by
      by_cases hk : k = key
      · simp [Toml.Entries.get?, hk] at h
      · simp only [Toml.Entries.get?, hk, if_false] at h
        simp only [entriesOfToml, Entries.get?, hk, if_false]
        exact get?_entriesOfToml tail h

mutual

theorem distinct_ofToml {origin : Option Origin} :
    (v : Toml) → v.Distinct → (ofToml origin v).Distinct
  | .string _, _ | .integer _, _ | .float _, _ | .boolean _, _ | .datetime _, _ => trivial
  | .array items, h | .tables items, h => distinct_itemsOfToml items h
  | .inline entries, h | .table _ entries, h => distinct_entriesOfToml entries h

theorem distinct_itemsOfToml {origin : Option Origin} :
    (xs : Toml.Items) → xs.Distinct → (itemsOfToml origin xs).Distinct
  | .nil, _ => trivial
  | .cons head tail, h => ⟨distinct_ofToml head h.1, distinct_itemsOfToml tail h.2⟩

theorem distinct_entriesOfToml {origin : Option Origin} :
    (es : Toml.Entries) → es.Distinct → (entriesOfToml origin es).Distinct
  | .nil, _ => trivial
  | .cons _ value tail, h =>
      ⟨get?_entriesOfToml tail h.1, distinct_ofToml value h.2.1,
        distinct_entriesOfToml tail h.2.2⟩

end

/-! ### JSON -/

/-- Members that all come after a key have none with it. -/
theorem get?_entriesOfJson {origin : Option Origin} {key : String} :
    (ms : Json.Members) → ms.above key → (entriesOfJson origin ms).get? key = none
  | .nil, _ => rfl
  | .cons k v tail, h => by
      simp only [Json.Members.above, Bool.and_eq_true, decide_eq_true_eq] at h
      have hk : k ≠ key := fun heq => String.lt_irrefl key (heq ▸ h.1)
      simp only [entriesOfJson, Entries.get?, hk, if_false]
      exact get?_entriesOfJson tail h.2

mutual

theorem distinct_ofJson {origin : Option Origin} :
    (v : Json) → v.normal → (ofJson origin v).Distinct
  | .null, _ | .bool _, _ | .number (.integer _ _), _ | .number (.double _), _
  | .string _, _ => trivial
  | .array items, h => distinct_itemsOfJson items h
  | .object members, h => distinct_entriesOfJson members h

theorem distinct_itemsOfJson {origin : Option Origin} :
    (xs : Json.Items) → xs.normal → (itemsOfJson origin xs).Distinct
  | .nil, _ => trivial
  | .cons head tail, h => by
      simp only [Json.Items.normal, Bool.and_eq_true] at h
      exact ⟨distinct_ofJson head h.1, distinct_itemsOfJson tail h.2⟩

theorem distinct_entriesOfJson {origin : Option Origin} :
    (ms : Json.Members) → ms.normal → (entriesOfJson origin ms).Distinct
  | .nil, _ => trivial
  | .cons _ value tail, h => by
      simp only [Json.Members.normal, Bool.and_eq_true] at h
      exact ⟨get?_entriesOfJson tail h.1.1, distinct_ofJson value h.1.2,
        distinct_entriesOfJson tail h.2⟩

end

/-! ### Files -/

theorem Entries.toList_injective :
    {es es' : Entries} → es.toList = es'.toList → es = es'
  | .nil, .nil, _ => rfl
  | .cons _ _ _, .cons _ _ _, h => by
      simp only [Entries.toList, List.cons.injEq, Prod.mk.injEq] at h
      obtain ⟨⟨rfl, rfl⟩, htail⟩ := h
      rw [toList_injective htail]

/-- In either format the entries of a text have no key twice. -/
theorem Format.distinct_of_parse? {format : Format} {file text : String} {es : Entries}
    (h : format.parse? file text = some es) : es.Distinct := by
  cases format with
  | toml =>
    simp only [Format.parse?, Option.map_eq_some_iff] at h
    obtain ⟨document, hdocument, rfl⟩ := h
    exact distinct_entriesOfToml document (Toml.distinct_of_parse? hdocument)
  | json =>
    simp only [Format.parse?] at h
    split at h
    · rename_i members hnormal _
      obtain rfl := Option.some.inj h
      exact distinct_entriesOfJson members hnormal
    · cases h

namespace Directory

/-- The layer of a file, there or not, is that of a table without repeated keys. -/
theorem exists_of_loadIfThere {d : Directory} {path : String}
    {layer : List (String × Configuration)} (h : d.loadIfThere path = .ok layer) :
    ∃ es : Entries, es.Distinct ∧ layer = es.toList := by
  simp only [loadIfThere, read] at h
  split at h
  · split at h
    · rename_i es hes
      exact ⟨es, Format.distinct_of_parse? hes, (Except.ok.inj h).symm⟩
    · cases h
  · exact ⟨.nil, trivial, (Except.ok.inj h).symm⟩

theorem distinct_of_loadIfThere {d : Directory} {path : String} {es : Entries}
    (h : d.loadIfThere path = .ok es.toList) : es.Distinct := by
  obtain ⟨es', hes', heq⟩ := exists_of_loadIfThere h
  exact Entries.toList_injective heq ▸ hes'

end Directory

end Configuration

end PartyLine
