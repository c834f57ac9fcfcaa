import PartyLine.Configuration.Path

/-!
# Leaves set in advance

Two configurations may be the same but for a scalar that one of them has been given in advance at
a place where the other has nothing. Whatever is laid over both, at whatever path, this remains
so, or the scalar is overwritten and they are the same: a scalar holds nothing that a later
overlay could keep.

* `Configuration.Preset`: the same but for a leaf set in advance, also of values that are not
  there;
* `Configuration.Preset.shape`: what an overlay finds in the two, by kinds of value;
* `Configuration.Keeps`: what an overlay does keeps them so, `keeps_laidOver`, `keeps_alter`;
* `Configuration.Preset.withLayers`: so do layers.
-/

namespace PartyLine

namespace Configuration

/-- Two values at one place, there or not, that are the same but for a scalar that the first has
    in advance at the end of some keys. -/
inductive Preset (s : Scalar) : List String → Option Configuration → Option Configuration → Prop
  | refl (keys : List String) (x : Option Configuration) : Preset s keys x x
  | leaf : Preset s [] (some (.scalar none s)) none
  | table {key : String} {keys : List String} {origin : Option Origin} {es es' : Entries} :
      (∀ other, other ≠ key → es.get? other = es'.get? other) →
      Preset s keys (es.get? key) (es'.get? key) →
      Preset s (key :: keys) (some (.table origin es)) (some (.table origin es'))
  /-- The tables on the way have been made for the scalar. -/
  | fresh {key : String} {keys : List String} {es : Entries} :
      (∀ other, other ≠ key → es.get? other = none) → Preset s keys (es.get? key) none →
      Preset s (key :: keys) (some (.table none es)) none

/-- Two tables' entries that are the same but for such a scalar. -/
inductive Entries.Preset (s : Scalar) : List String → Entries → Entries → Prop
  | refl (keys : List String) (es : Entries) : Entries.Preset s keys es es
  | inside {key : String} {keys : List String} {es es' : Entries} :
      (∀ other, other ≠ key → es.get? other = es'.get? other) →
      Configuration.Preset s keys (es.get? key) (es'.get? key) →
      Entries.Preset s (key :: keys) es es'

section Preset

variable {s : Scalar} {keys : List String} {x y : Option Configuration} {es es' : Entries}

theorem Entries.Preset.table (h : Entries.Preset s keys es es') (origin : Option Origin) :
    Configuration.Preset s keys (some (.table origin es)) (some (.table origin es')) := by
  cases h with
  | refl => exact .refl _ _
  | inside hothers hinside => exact .table hothers hinside

/-- What an overlay finds at the place: arrays are the same, and tables but for the scalar. -/
theorem Preset.shape (h : Preset s keys x y) :
    (x.getD nothing).items = (y.getD nothing).items ∧
      (x.getD nothing).arrayOrigin = (y.getD nothing).arrayOrigin ∧
      (x.getD nothing).tableOrigin = (y.getD nothing).tableOrigin ∧
      Entries.Preset s keys (x.getD nothing).entries (y.getD nothing).entries := by
  cases h with
  | refl => exact ⟨rfl, rfl, rfl, .refl _ _⟩
  | leaf => exact ⟨rfl, rfl, rfl, .refl _ _⟩
  | table hothers hinside => exact ⟨rfl, rfl, rfl, .inside hothers hinside⟩
  | fresh hothers hinside => exact ⟨rfl, rfl, rfl, .inside hothers hinside⟩

/-- What is done to a value leaves two the same but for the scalar. -/
def Keeps (s : Scalar) (g : Configuration → Configuration) : Prop :=
  ∀ {keys : List String} {x y : Option Configuration}, Preset s keys x y →
    Preset s keys (some (g (x.getD nothing))) (some (g (y.getD nothing)))

/-- Doing it to an entry does so. -/
theorem Entries.Preset.alter {g : Configuration → Configuration} (hg : Keeps s g) (name : String)
    (h : Entries.Preset s keys es es') :
    Entries.Preset s keys (es.alter name g) (es'.alter name g) := by
  cases h with
  | refl => exact .refl _ _
  | @inside key keys _ _ hothers hinside =>
    refine .inside (fun other hother => ?_) ?_
    · by_cases hname : other = name
      · subst hname
        rw [Entries.get?_alter_self, Entries.get?_alter_self, hothers other hother]
      · rw [Entries.get?_alter_of_ne hname, Entries.get?_alter_of_ne hname, hothers other hother]
    · by_cases hname : key = name
      · subst hname
        rw [Entries.get?_alter_self, Entries.get?_alter_self]
        exact hg hinside
      · rwa [Entries.get?_alter_of_ne hname, Entries.get?_alter_of_ne hname]

mutual

/-- Laying a value over two leaves them so: only a table leaves anything of what is below. -/
theorem keeps_laidOver (s : Scalar) (v : Configuration) : Keeps s fun old => v.laidOver old := by
  intro keys x y h
  cases v with
  | scalar origin value => exact .refl _ _
  | array origin xs => exact .refl _ _
  | table origin es =>
    obtain ⟨-, -, horigin, hentries⟩ := h.shape
    simp only [laidOver, horigin]
    exact (Entries.preset_laidOver s es hentries).table _

theorem Entries.preset_laidOver (s : Scalar) (es : Entries) {keys : List String}
    {below below' : Entries} (h : Entries.Preset s keys below below') :
    Entries.Preset s keys (es.laidOver below) (es.laidOver below') := by
  cases es with
  | nil => exact h
  | cons key value tail =>
    exact Entries.preset_laidOver s tail (h.alter (keeps_laidOver s value) key)

end

/-- So does an overlay anywhere inside. -/
theorem keeps_alter {g : Configuration → Configuration} (hg : Keeps s g) (steps : List Step) :
    Keeps s (Configuration.alter g steps) := by
  induction steps with
  | nil => exact hg
  | cons step steps ih =>
    intro keys x y h
    obtain ⟨hitems, harray, horigin, hentries⟩ := h.shape
    cases step with
    | key name =>
      simp only [Configuration.alter, horigin]
      exact (hentries.alter ih name).table _
    | index place =>
      simp only [Configuration.alter, hitems, harray]
      exact .refl _ _

/-- So does a layer, and one layer after the other. -/
theorem Preset.withLayer {c c' : Configuration} (h : Preset s keys (some c) (some c'))
    (layer : List (String × Configuration)) :
    Preset s keys (some (c.withLayer layer)) (some (c'.withLayer layer)) := by
  induction layer generalizing c c' with
  | nil => exact h
  | cons p layer ih => exact ih (keeps_alter (keeps_laidOver s p.2) (Path.parse p.1) h)

theorem Preset.withLayers {c c' : Configuration} (h : Preset s keys (some c) (some c'))
    (layers : List (List (String × Configuration))) :
    Preset s keys (some (layers.foldl Configuration.withLayer c))
      (some (layers.foldl Configuration.withLayer c')) := by
  induction layers generalizing c c' with
  | nil => exact h
  | cons layer layers ih => exact ih (h.withLayer layer)

end Preset

end Configuration

end PartyLine
