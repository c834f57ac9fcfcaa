import PartyLine.Proofs.Configuration.Preset
import PartyLine.Proofs.Settings

/-!
# Defaults set in advance

Loading the settings lays the file in the working directory over the defaults of the level and
the URL; loading the file alone leaves it to the reading of the sections to fill in what is
missing. Both come to the same for every file, whatever is in it, if they take its entries in
one order. But each has an order of its own, and where a key of the file leads to what another
key gives, or into it, two orders may decide differently; where none does, they cannot.

That the defaults make no difference is shown leaf by leaf: a scalar set in advance is either
overwritten or read as the default that it is (`Preset`), through whatever sections, arrays and
misfits the file puts in its way.

* `Settings.ofConfiguration_preset`: a default set in advance is read like a missing one;
* `Settings.ofLayers_defaults`: the defaults make no difference to any layers over them;
* `Settings.load_eq_loadFrom`: without variables both ways of loading agree, in one order for any
  file and in any two orders for one without disputes;
* `Settings.not_load_eq_loadFrom`: a file with a dispute, and two orders in which they do not.
-/

namespace PartyLine

namespace Settings

open PartyLine.Configuration

section Reading

variable {α : Type} {s : Scalar} {es es' : Entries} {key name : String} {default : α}

theorem readSection_table (origin : Option Origin) (es : Entries) (n : Nat) (name : String)
    (default : α) (read : Configuration → Except ReadError α) :
    (Configuration.table origin es).readSection n name default read =
      match es.get? name with
      | none => .ok default
      | some v => (read v).mapError (·.inside (.key name)) := by
  simp only [readSection, field?]
  cases es.get? name <;> rfl

/-- Tables with one entry under a name have one section of that name. -/
theorem readSection_congr (h : es.get? name = es'.get? name) (origin : Option Origin) (n : Nat)
    (default : α) (read : Configuration → Except ReadError α) :
    (Configuration.table origin es).readSection n name default read =
      (Configuration.table origin es').readSection n name default read := by
  rw [readSection_table, readSection_table, h]

/-- A leaf that is the default is read like one that is missing. -/
theorem readField_preset {read : Configuration → Except Misfit α}
    (hread : read (.scalar none s) = .ok default) (h : Entries.Preset s [name] es es')
    (origin : Option Origin) (n : Nat) :
    (Configuration.table origin es).readField n name default read =
      (Configuration.table origin es').readField n name default read := by
  cases h with
  | refl => rfl
  | inside hothers hinside =>
    rw [readField, readField, readSection_table, readSection_table]
    generalize es.get? name = x at hinside
    generalize es'.get? name = y at hinside
    cases hinside with
    | refl => rfl
    | leaf =>
      simp only [hread]
      rfl

/-- So is a section with nothing but that leaf. -/
theorem readOnly_preset {read : Configuration → Except Misfit α}
    (hread : read (.scalar none s) = .ok default) (h : Entries.Preset s [key, name] es es')
    (origin : Option Origin) (n : Nat) (type : String) (m : Nat) :
    (Configuration.table origin es).readSection n key default (fun c => do
        c.checkSection type; c.readField m name default read) =
      (Configuration.table origin es').readSection n key default (fun c => do
        c.checkSection type; c.readField m name default read) := by
  cases h with
  | refl => rfl
  | inside hothers hinside =>
    rw [readSection_table, readSection_table]
    generalize es.get? key = x at hinside
    generalize es'.get? key = y at hinside
    cases hinside with
    | refl => rfl
    | @table _ _ origin xs xs' hothers hinside =>
      have hfield := readField_preset hread (.inside hothers hinside) origin m
      exact congrArg (Except.mapError (ReadError.inside (.key key))) hfield
    | @fresh _ _ xs hothers hinside =>
      have hempty : Entries.Preset s [name] xs .nil := .inside hothers hinside
      have hfield := readField_preset hread hempty none m
      exact congrArg (Except.mapError (ReadError.inside (.key key))) hfield

/-- The level or the URL, set in advance to its default, is read as without it. -/
theorem ofConfiguration_preset {σ : Setting} (hσ : σ = .logLevel ∨ σ = .url)
    (hread : σ.read (.scalar none s) = .ok (σ.get {})) {c c' : Configuration}
    (h : Preset s σ.path (some c) (some c')) : ofConfiguration c = ofConfiguration c' := by
  rcases hσ with rfl | rfl
  · cases h with
    | refl => rfl
    | @table _ _ origin es es' hothers hinside =>
      have hlogLevel : (Configuration.table origin es).readSection 0 "global"
          ({} : Settings).logLevel readLogLevel = (Configuration.table origin es').readSection 0
          "global" ({} : Settings).logLevel readLogLevel :=
        readOnly_preset hread (.inside hothers hinside) origin 0 "GlobalConfig" 0
      simp only [ofConfiguration, hlogLevel, readSection_congr (hothers "endpoint" (by decide)),
        readSection_congr (hothers "transport" (by decide)),
        readSection_congr (hothers "channel" (by decide))]
  · cases h with
    | refl => rfl
    | @table _ _ origin es es' hothers hinside =>
      have hurl : (Configuration.table origin es).readSection 1 "endpoint" ({} : Settings).url
          readUrl = (Configuration.table origin es').readSection 1 "endpoint"
          ({} : Settings).url readUrl :=
        readOnly_preset hread (.inside hothers hinside) origin 1 "EndpointConfig" 0
      simp only [ofConfiguration, hurl, readSection_congr (hothers "global" (by decide)),
        readSection_congr (hothers "transport" (by decide)),
        readSection_congr (hothers "channel" (by decide))]

end Reading

/-! ### The lowest layer -/

/-- The entries of the lowest layer without the level. -/
def lowestUrl : Entries :=
  .cons "endpoint" (.table none (.cons "url" (.scalar none (.text ({} : Settings).url)) .nil)) .nil

theorem get?_of_ne {key other : String} (h : other ≠ key) (v : Configuration) (es : Entries) :
    (Entries.cons key v es).get? other = es.get? other := if_neg h.symm

theorem preset_lowest : Preset (.text ({} : Settings).logLevel) Setting.logLevel.path
    (some (.table none lowest)) (some (.table none lowestUrl)) := by
  refine .table (fun other hother => get?_of_ne hother _ _) ?_
  exact .fresh (fun other hother => get?_of_ne hother _ _) .leaf

theorem preset_lowestUrl : Preset (.text ({} : Settings).url) Setting.url.path
    (some (.table none lowestUrl)) (some empty) := by
  refine .table (fun other hother => get?_of_ne hother _ _) ?_
  exact .fresh (fun other hother => get?_of_ne hother _ _) .leaf

/-- The defaults make no difference to layers over them, whatever these hold. -/
theorem ofLayers_defaults (layers : List (List (String × Configuration))) :
    ofLayers (defaults :: layers) = ofLayers layers := by
  have hlogLevel := ofConfiguration_preset (.inl rfl) rfl (preset_lowest.withLayers layers)
  have hurl := ofConfiguration_preset (.inr rfl) rfl (preset_lowestUrl.withLayers layers)
  rw [ofLayers, ofLayers, List.foldl_cons, withLayer_defaults, hlogLevel, hurl]

/-! ### The two ways of loading -/

/-- The name of the settings' file in a format. -/
def fileName (format : Format) : String := fileStem ++ "." ++ format.extension

theorem layer_eq_nil {env : Environment} (h : ∀ p ∈ env, Environment.key? p.1 = none) :
    Environment.layer env = [] := by
  refine List.filterMap_eq_nil_iff.2 fun p hp => ?_
  simp only [h p hp, Option.map_none]

section Files

variable {d : Directory} {format : Format} {path text : String}

theorem names_fileName (format : Format) : names (fileName format) = [fileName format] := by
  cases format <;> rfl

theorem text?_of_names {path : String} (hnames : names path = [fileName format])
    (hstart : path.startsWith "/" = false) (hend : path.endsWith "/" = false) :
    d.text? path = d.files.lookup (fileName format) := by
  have hresolve : resolve? [fileName format] = some [fileName format] := by
    cases format <;> rfl
  rw [Directory.text?, hstart, hend, if_neg (by simp), hnames, hresolve]
  rfl

/-- Every path that leads to the file is as good as its name. -/
theorem text?_fileName (hpath : names path = [fileName format]) (htext : d.text? path = some text) :
    d.text? (fileName format) = some text := by
  have hslashes : path.startsWith "/" = false ∧ path.endsWith "/" = false := by
    rw [← Bool.not_eq_true, ← Bool.not_eq_true, ← not_or]
    intro hslash
    rw [Directory.text?, if_pos hslash] at htext
    cases htext
  have hends : (fileName format).startsWith "/" = false ∧
      (fileName format).endsWith "/" = false := by
    cases format <;> decide +kernel
  rw [text?_of_names (names_fileName format) hends.1 hends.2, ← htext,
    text?_of_names hpath hslashes.1 hslashes.2]

theorem find_path (hpath : names path = [fileName format]) (htext : d.text? path = some text) :
    d.find path = .ok { name := fileName format, format, text } := by
  have hextension : extension? (fileName format) = some format.extension := by
    cases format <;> rfl
  have hformat : Format.all.find? (·.extension == format.extension) = some format := by
    cases format <;> decide
  simp only [Directory.find, htext, hpath, List.getLast?_singleton, Option.bind_some, hextension,
    Option.getD_some, hformat]
  rfl

/-- The name without extension leads to the file too, if it is the only one. -/
theorem find_fileStem (hstem : d.text? fileStem = none)
    (hother : ∀ other, d.text? (fileName other) ≠ none → other = format)
    (htext : d.text? (fileName format) = some text) :
    d.find fileStem = .ok { name := fileName format, format, text } := by
  have hends : Directory.endsInName fileStem := rfl
  have hfound : (Format.all.findSome? fun format => (d.text? (fileName format)).map fun text =>
      ({ name := "/".intercalate (names (fileName format)), format, text } : File)) =
        some { name := fileName format, format, text } := by
    cases format with
    | toml =>
      simp only [Format.all, List.findSome?_cons, htext, Option.map_some, names_fileName]
      rfl
    | json =>
      have hnone : d.text? (fileName .toml) = none := by
        by_contra hsome
        cases hother .toml hsome
      simp only [Format.all, List.findSome?_cons, hnone, htext, Option.map_some, Option.map_none,
        names_fileName]
      rfl
  unfold fileName at hfound
  simp only [Directory.find, hstem, hfound, Option.filter_some, hends, if_true]
  rfl

end Files

/-- Without variables, loading the settings of a client and loading its file alone come to the
    same, or fail alike, whatever the file holds, as long as both take its entries in one order:
    what may become of the one may become of the other. In a file where nothing that one key
    gives is at the place of what another gives, or in its way, the order has no say, and both
    come to the same in any two orders. The defaults set in advance never make a difference. -/
theorem load_eq_loadFrom {d : Directory} {env : Environment} {format : Format}
    {path text : String} (hstem : d.text? fileStem = none)
    (hother : ∀ other, d.text? (fileName other) ≠ none → other = format)
    (hpath : names path = [fileName format]) (htext : d.text? path = some text)
    (henv : ∀ p ∈ env, Environment.key? p.1 = none) :
    (∀ a, load d env a = loadFrom d path a) ∧
    ((∀ file, d.load path = .ok file → Undisputed file) →
      ∀ a a', load d env a = loadFrom d path a') ∧
    ∀ layers, ofLayers (defaults :: layers) = ofLayers layers := by
  have halike (a : Arrangement) : load d env a = loadFrom d path a := by
    rw [load, loadFrom, Directory.loadIfThere, Directory.load, find_path hpath htext,
      find_fileStem hstem hother (text?_fileName hpath htext), layer_eq_nil henv]
    exact bind_congr fun file => ofLayers_defaults [a.order file, []]
  refine ⟨halike, fun hfile a a' => ?_, ofLayers_defaults⟩
  calc load d env a
      = loadFrom d path a := halike a
    _ = loadFrom d path := loadFrom_arrangement hfile a
    _ = loadFrom d path a' := (loadFrom_arrangement hfile a').symm

/-- A file with a section that is an array, and with a section to which two keys lead. -/
def partedText : String :=
  "\x7b\"global\": [7], \"transport\": \x7b\"connect_timeout_ms\": 5\x7d, " ++
    "\"transport.websocket\": [1]\x7d"

/-- The only file of a directory. -/
def partedDirectory : Directory := ⟨"/", [("relay.json", partedText)]⟩

/-- The paths of its leaves part, and both loaders find the same in it, each in an order of its
    own. -/
theorem load_eq_loadFrom_parted :
    load partedDirectory [("PATH", "/bin")] .reversed = loadFrom partedDirectory "./relay.json" ∧
      loadFrom partedDirectory "./relay.json" = .ok { logLevel := "7", transport :=
        { connectTimeout := 5, webSocket := { maxMessageSize := some 1 } } } := by
  have hother : ∀ other, partedDirectory.text? (fileName other) ≠ none → other = .json := by
    intro other hthere
    cases other with
    | toml => exact absurd (by decide +kernel) hthere
    | json => rfl
  have hstem : partedDirectory.text? fileStem = none := by decide +kernel
  have hpath : names "./relay.json" = [fileName .json] := by decide +kernel
  have htext : partedDirectory.text? "./relay.json" = some partedText := by decide +kernel
  have henv : ∀ p ∈ [("PATH", "/bin")], Environment.key? p.1 = none := by decide +kernel
  have hundisputed : ∀ file ∈ (partedDirectory.load "./relay.json").toOption,
      Undisputed file := by
    decide +kernel
  have hfile : ∀ file, partedDirectory.load "./relay.json" = .ok file → Undisputed file := by
    intro file hload
    refine hundisputed file ?_
    rw [hload]
    rfl
  obtain ⟨-, halike, -⟩ := load_eq_loadFrom hstem hother hpath htext henv
  exact ⟨halike hfile _ _, by decide +kernel⟩

/-- A file with a key that leads into the text of another one. -/
def disputedText : String :=
  "\x7b\"global.log_level\": \"debug\", \"global.log_level.part\": 0\x7d"

/-- The only file of a directory. -/
def disputedDirectory : Directory := ⟨"/", [("relay.json", disputedText)]⟩

/-- There one loader finds a table in the place of the level and fails, and the other one, which
    takes the text last, finds the text. -/
theorem not_load_eq_loadFrom :
    load disputedDirectory [] =
        .error (.misfit ⟨[.key "global", .key "log_level"], .type none "map" "a string"⟩) ∧
      loadFrom disputedDirectory "relay.json" .reversed = .ok { logLevel := "debug" } ∧
      ¬ ∀ a a', (load disputedDirectory [] a).toOption =
        (loadFrom disputedDirectory "relay.json" a').toOption := by
  have hload : load disputedDirectory [] =
      .error (.misfit ⟨[.key "global", .key "log_level"], .type none "map" "a string"⟩) := by
    decide +kernel
  have hloadFrom : loadFrom disputedDirectory "relay.json" .reversed =
      .ok { logLevel := "debug" } := by
    decide +kernel
  refine ⟨hload, hloadFrom, fun h => ?_⟩
  have hboth := h .listed .reversed
  rw [hload, hloadFrom] at hboth
  cases hboth

end Settings

end PartyLine
