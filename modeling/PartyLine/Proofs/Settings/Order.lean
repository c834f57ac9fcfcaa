import PartyLine.Proofs.Configuration.Order
import PartyLine.Settings.Load

/-!
# Settings and the order of layers

Settings are read from a configuration by the names of sections and fields, or by their places,
and nothing that is read tells in which order a table has its entries. So the settings of some
layers are the same in whatever order an undisputed one among them is taken, and a file whose
keys do not lead into each other gives all loaders the same.

Of each reader it is shown that it finds the same in configurations that are the same but for the
order of entries (`Configuration.Orderless`): leaves are told by their kind, a section looks for its
fields one by one, and a choice is read from a table only if it is the table's single key. What
makes two orders of a layer the same in this sense is `PartyLine.Proofs.Configuration.Order`.

* `Configuration.Orderless.readSection`: fields are read so if their values are;
* `Settings.orderless_ofConfiguration`: so are settings;
* `Settings.ofLayers_perm`: an undisputed layer in any order;
* `Settings.load_arrangement`, `Settings.loadFrom_arrangement`: so for the two loaders.
-/

namespace PartyLine

namespace Configuration

section Reading

variable {α : Type}

theorem orderless_readText : Orderless readText := by
  intro v w h
  cases h <;> rfl

theorem orderless_readNatural : Orderless readNatural := by
  intro v w h
  cases h <;> rfl

theorem orderless_readOptional : Orderless readOptional := by
  intro v w h
  cases h <;> rfl

theorem orderless_readFlag : Orderless readFlag := by
  intro v w h
  cases h <;> rfl

/-- Tables that are the same have the same only key, if they have only one. -/
theorem orderless_readChoice (choices : String) (ofName? : String → Option α) :
    Orderless (readChoice choices ofName?) := by
  intro v w h
  cases h with
  | scalar => rfl
  | array => rfl
  | @table origin es es' hlength hget =>
    cases es with
    | nil =>
      cases es' with
      | nil => rfl
      | cons => cases hlength
    | cons key value tail =>
      cases es' with
      | nil => cases hlength
      | cons key' value' tail' =>
        cases tail with
        | cons =>
          cases tail' with
          | nil => cases hlength
          | cons => rfl
        | nil =>
          cases tail' with
          | cons => cases hlength
          | nil =>
            have hkey := isSome_eq (hget key)
            obtain rfl : key' = key := by simpa [Entries.get?] using hkey
            rfl

theorem orderless_checkSection (name : String) : Orderless (checkSection · name) := by
  intro v w h
  cases h <;> rfl

theorem Orderless.readSection {read : Configuration → Except ReadError α} (hread : Orderless read)
    (n : Nat) (name : String) (default : α) :
    Orderless (Configuration.readSection · n name default read) := by
  intro v w h
  cases h with
  | scalar => rfl
  | @array origin xs ys hitems =>
    have hitem := hitems n
    simp only [Configuration.readSection, field?]
    generalize xs.toList[n]? = x at hitem ⊢
    generalize ys.toList[n]? = y at hitem ⊢
    cases hitem with
    | none => rfl
    | some hitem => simp [hread _ _ hitem]
  | @table origin es es' _ hget =>
    have hentry := hget name
    simp only [Configuration.readSection, field?]
    generalize es.get? name = x at hentry ⊢
    generalize es'.get? name = y at hentry ⊢
    cases hentry with
    | none => rfl
    | some hentry => simp [hread _ _ hentry]

theorem Orderless.readField {read : Configuration → Except Misfit α} (hread : Orderless read)
    (n : Nat) (name : String) (default : α) :
    Orderless (Configuration.readField · n name default read) := by
  refine Orderless.readSection (fun v w h => ?_) n name default
  rw [hread v w h]

end Reading

/-- The entries of a file from the last to the first. -/
def Arrangement.reversed : Arrangement where
  order := List.reverse
  perm := List.reverse_perm

end Configuration

namespace Settings

open PartyLine.Configuration

theorem orderless_readLogLevel : Orderless readLogLevel := by
  intro v w h
  simp only [readLogLevel, orderless_checkSection _ v w h, orderless_readText.readField _ _ _ v w h]

theorem orderless_readUrl : Orderless readUrl := by
  intro v w h
  simp only [readUrl, orderless_checkSection _ v w h, orderless_readText.readField _ _ _ v w h]

theorem orderless_readWebSocket : Orderless readWebSocket := by
  intro v w h
  simp only [readWebSocket, orderless_checkSection _ v w h,
    orderless_readOptional.readField _ _ _ v w h, orderless_readFlag.readField _ _ _ v w h]

theorem orderless_readTransport : Orderless readTransport := by
  intro v w h
  simp only [readTransport, orderless_checkSection _ v w h,
    orderless_readNatural.readField _ _ _ v w h, orderless_readWebSocket.readSection _ _ _ v w h]

theorem orderless_readOnTerminated : Orderless readOnTerminated := by
  intro v w h
  simp only [readOnTerminated, orderless_checkSection _ v w h,
    (orderless_readChoice _ _).readField _ _ _ v w h]

/-- Settings do not tell the order of entries. -/
theorem orderless_ofConfiguration : Orderless ofConfiguration := by
  intro v w h
  simp only [ofConfiguration, orderless_readLogLevel.readSection _ _ _ v w h,
    orderless_readUrl.readSection _ _ _ v w h, orderless_readTransport.readSection _ _ _ v w h,
    orderless_readOnTerminated.readSection _ _ _ v w h]

/-- An undisputed layer gives the same settings in any order, whatever is below and above. -/
theorem ofLayers_perm {layer layer' : List (String × Configuration)} (hperm : layer.Perm layer')
    (hlayer : Undisputed layer) (below above : List (List (String × Configuration))) :
    ofLayers (below ++ layer :: above) = ofLayers (below ++ layer' :: above) := by
  have hread : Orderless fun c => ofConfiguration (above.foldl withLayer c) :=
    fun v w h => orderless_ofConfiguration _ _ (h.withLayers above)
  simp only [ofLayers, List.foldl_append, List.foldl_cons]
  exact congrArg (Except.mapError LoadError.misfit) (hread.withLayer_perm hperm hlayer _)

/-- A file without disputes gives the same settings in whatever order it is taken. -/
theorem load_arrangement {d : Directory}
    (h : ∀ file, d.loadIfThere fileStem = .ok file → Undisputed file) (env : Environment)
    (a : Arrangement) : load d env a = load d env := by
  rw [load, load]
  cases hfile : d.loadIfThere fileStem with
  | error error => rfl
  | ok file => exact (ofLayers_perm (a.perm file).symm (h file hfile) [defaults] [env.layer]).symm

theorem loadFrom_arrangement {d : Directory} {path : String}
    (h : ∀ file, d.load path = .ok file → Undisputed file) (a : Arrangement) :
    loadFrom d path a = loadFrom d path := by
  rw [loadFrom, loadFrom]
  cases hfile : d.load path with
  | error error => rfl
  | ok file => exact (ofLayers_perm (a.perm file).symm (h file hfile) [] []).symm

end Settings

end PartyLine
