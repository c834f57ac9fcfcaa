import PartyLine.Proofs.Configuration.Environment
import PartyLine.Proofs.Configuration.File
import PartyLine.Proofs.Settings.Order

/-!
# Settings from layers

Each setting has a place in files and a variable of its own. What is loaded for it is
what the variable says, else what the file says at its place, else the default, and
nothing else in the file or the environment has a say in it.

The three layers are trees, and are laid one over the other before anything is read; so the proof
goes from the place of a setting in the result back to the layers. A variable lays one leaf at
the place of its own setting, and is beside all other places; hence an environment, whose variables
come in any order, leaves at a place what its variable says, or what was below
(`Setting.reach?_of_named`, `Setting.reach?_of_unnamed`). A file of plain keys is laid over as one
tree, whatever order its entries are taken in, and leaves at a place what it has there, or
what was below. Reading is then setting by setting: each is read from its place alone, and the
whole succeeds exactly if each of them does.

* `Setting`: the settings that can be given, with their places and variables;
* `Setting.Decided`: the value that the layers give a setting;
* `Setting.Lays`: what one variable does, and from it what an environment does,
  `Setting.reach?_of_named` and `Setting.reach?_of_unnamed`;
* `Settings.ofConfiguration_eq`: a configuration is read setting by setting;
* `Settings.load_layered`: all settings are loaded as the layers decide.
-/

namespace PartyLine

open PartyLine.Configuration

/-- A setting that a file or the environment may give. -/
inductive Setting where
  | logLevel
  | url
  | connectTimeout
  | maxMessageSize
  | maxFrameSize
  | acceptUnmaskedFrames
  | onTerminated
  deriving DecidableEq

namespace Setting

/-- The values of a setting. -/
abbrev Value : Setting → Type
  | logLevel | url => String
  | connectTimeout => Nat
  | maxMessageSize | maxFrameSize => Option Nat
  | acceptUnmaskedFrames => Bool
  | onTerminated => TerminatedPolicy

/-- The value of a setting among all. -/
def get : (σ : Setting) → Settings → σ.Value
  | logLevel, s => s.logLevel
  | url, s => s.url
  | connectTimeout, s => s.transport.connectTimeout
  | maxMessageSize, s => s.transport.webSocket.maxMessageSize
  | maxFrameSize, s => s.transport.webSocket.maxFrameSize
  | acceptUnmaskedFrames, s => s.transport.webSocket.acceptUnmaskedFrames
  | onTerminated, s => s.onTerminated

/-- The place of a setting in a file. -/
def path : Setting → List String
  | logLevel => ["global", "log_level"]
  | url => ["endpoint", "url"]
  | connectTimeout => ["transport", "connect_timeout_ms"]
  | maxMessageSize => ["transport", "websocket", "max_message_size"]
  | maxFrameSize => ["transport", "websocket", "max_frame_size"]
  | acceptUnmaskedFrames => ["transport", "websocket", "accept_unmasked_frames"]
  | onTerminated => ["channel", "on_terminated"]

/-- The name of a setting's variable. -/
def variableName : Setting → String
  | logLevel => "RELAY_GLOBAL__LOG_LEVEL"
  | url => "RELAY_ENDPOINT__URL"
  | connectTimeout => "RELAY_TRANSPORT__CONNECT_TIMEOUT_MS"
  | maxMessageSize => "RELAY_TRANSPORT__WEBSOCKET__MAX_MESSAGE_SIZE"
  | maxFrameSize => "RELAY_TRANSPORT__WEBSOCKET__MAX_FRAME_SIZE"
  | acceptUnmaskedFrames => "RELAY_TRANSPORT__WEBSOCKET__ACCEPT_UNMASKED_FRAMES"
  | onTerminated => "RELAY_CHANNEL__ON_TERMINATED"

/-- Whether a variable is a setting's, in any case. -/
def isNamed (σ : Setting) (name : String) : Bool :=
  Text.lowercase name == Text.lowercase σ.variableName

/-- A scalar of a setting's type, and the value it is. -/
def Fits : (σ : Setting) → Scalar → σ.Value → Prop
  | logLevel, s, v | url, s, v => s = .text v
  | connectTimeout, s, n => s = .integer (n : Nat)
  | maxMessageSize, s, v | maxFrameSize, s, v => ∃ n : Nat, s = .integer n ∧ v = some n
  | acceptUnmaskedFrames, s, b => s = .boolean b
  | onTerminated, s, p => s = .text p.name

/-- A variable's text that is of a setting's type, and the value it says. -/
def Spells : (σ : Setting) → String → σ.Value → Prop
  | logLevel, s, v | url, s, v => v = s ∧ ¬ Environment.IsLiteral s
  | connectTimeout, s, n => Environment.integer? s.toList = some (n : Nat)
  | maxMessageSize, s, v | maxFrameSize, s, v =>
      ∃ n : Nat, Environment.integer? s.toList = some n ∧ v = some n
  | acceptUnmaskedFrames, s, b => Environment.boolean? s = some b
  | onTerminated, s, p => s = TerminatedPolicy.name p

/-- What a file has at a setting's place. -/
def inFile? (σ : Setting) (file : Entries) : Option Configuration :=
  (Configuration.table none file).reach? σ.path

/-- No variable is a setting's. -/
def Unnamed (σ : Setting) (env : Environment) : Prop := ∀ p ∈ env, σ.isNamed p.1 = false

/-- The value of a setting that its variable says, else the file, else the default.
    What does not decide may be anything. -/
inductive Decided (σ : Setting) (file : Entries) (env : Environment) : σ.Value → Prop
  | environment {name text : String} {v : σ.Value} :
      (name, text) ∈ env → σ.isNamed name → σ.Spells text v → Decided σ file env v
  | file {origin : Option Origin} {s : Scalar} {v : σ.Value} :
      σ.Unnamed env → σ.inFile? file = some (.scalar origin s) → σ.Fits s v →
      Decided σ file env v
  | default : σ.Unnamed env → σ.inFile? file = none → Decided σ file env (σ.get {})

/-- A file whose keys are plain and in which every section of settings is a table, if it
    is there. What else is in it, and what is in the settings' places, may be anything. -/
structure Placed (file : Entries) : Prop where
  plain : ∀ p ∈ file.toList, Path.IsPlain p.1
  clear : ∀ σ : Setting, (Configuration.table none file).Clear σ.path

/-- An environment in which no setting is named twice, and whose other variables are
    none of the client's. -/
structure Named (env : Environment) : Prop where
  once : ∀ σ : Setting, (env.countP fun p => σ.isNamed p.1) ≤ 1
  only : ∀ p ∈ env, (∃ σ : Setting, σ.isNamed p.1) ∨ Environment.key? p.1 = none

/-! ### Variables -/

/-- The key of a setting in a layer. -/
def key (σ : Setting) : String := ".".intercalate σ.path

theorem parse_key (σ : Setting) : Path.parse σ.key = σ.path.map .key := by
  cases σ <;> decide +kernel

theorem apart_path {σ τ : Setting} (h : σ ≠ τ) : Apart σ.path τ.path := by
  cases σ <;> cases τ <;> first | exact absurd rfl h | decide

theorem key?_variableName (σ : Setting) : Environment.key? σ.variableName = some σ.key := by
  cases σ <;> decide +kernel

theorem key?_of_isNamed {σ : Setting} {name : String} (h : σ.isNamed name) :
    Environment.key? name = some σ.key := by
  rw [← σ.key?_variableName]
  exact Environment.key?_congr (beq_iff_eq.1 h)

theorem eq_of_isNamed {σ τ : Setting} {name : String} (hσ : σ.isNamed name)
    (hτ : τ.isNamed name) : σ = τ := by
  have hkey : σ.key = τ.key :=
    Option.some.inj ((key?_of_isNamed hσ).symm.trans (key?_of_isNamed hτ))
  have hpath : σ.path.map Step.key = τ.path.map .key := by rw [← parse_key, hkey, parse_key]
  cases σ <;> cases τ <;> first | rfl | exact absurd hpath (by decide)

variable {env : Environment} {name text : String}

theorem isNamed_eq_false {σ : Setting} (h : Environment.key? name = none) :
    σ.isNamed name = false := by
  rw [← Bool.not_eq_true]
  intro hσ
  cases h.symm.trans (key?_of_isNamed hσ)

/-- A variable of one setting is no other one's. -/
theorem isNamed_eq_decide {τ : Setting} (h : τ.isNamed name) (σ : Setting) :
    σ.isNamed name = decide (σ = τ) := by
  by_cases hστ : σ = τ
  · subst hστ
    simpa using h
  · rw [decide_eq_false hστ, ← Bool.not_eq_true]
    exact fun hσ => hστ (eq_of_isNamed hσ h)

/-- What one variable does to the settings of a configuration. -/
structure Lays (name text : String) (c c' : Configuration) : Prop where
  clear {σ : Setting} : c.Clear σ.path → c'.Clear σ.path
  named {σ : Setting} : σ.isNamed name →
    c'.reach? σ.path = some (.scalar (some .environment) (Environment.scalar text))
  unnamed {σ : Setting} : σ.isNamed name = false → c'.reach? σ.path = c.reach? σ.path

theorem lays_alter {τ : Setting} (hτ : τ.isNamed name) (c : Configuration) :
    Lays name text c
      (alter (fun _ => .scalar (some .environment) (Environment.scalar text))
        (τ.path.map .key) c) where
  clear {σ} hc := by
    refine hc.alter _ ?_
    by_cases hτσ : τ = σ
    · exact .inl (hτσ ▸ rfl)
    · exact .inr (apart_path hτσ)
  named {σ} hσ := by
    obtain rfl := eq_of_isNamed hσ hτ
    exact reach?_alter_self _ c σ.path
  unnamed {σ} hσ := by
    rw [isNamed_eq_decide hτ, decide_eq_false_iff_not] at hσ
    exact reach?_alter_of_apart _ c (apart_path (Ne.symm hσ))

/-- The first variable is laid over before the others. -/
theorem exists_lays (h : (∃ σ : Setting, σ.isNamed name) ∨ Environment.key? name = none)
    (c : Configuration) (text : String) (env : Environment) :
    ∃ c', Lays name text c c' ∧
      withLayer c (Environment.layer ((name, text) :: env)) =
        withLayer c' (Environment.layer env) := by
  rcases h with ⟨τ, hτ⟩ | hnone
  · refine ⟨_, lays_alter hτ c, ?_⟩
    simp only [Environment.layer, List.filterMap_cons, key?_of_isNamed hτ, Option.map_some]
    rw [← parse_key]
    rfl
  · refine ⟨c, ⟨id, fun hσ => ?_, fun _ => rfl⟩, ?_⟩
    · cases hσ.symm.trans (isNamed_eq_false hnone)
    · simp only [Environment.layer, List.filterMap_cons, hnone, Option.map_none]

theorem Named.tail {p : String × String} (h : Named (p :: env)) : Named env where
  once σ := Nat.le_trans (List.sublist_cons_self p env).countP_le (h.once σ)
  only q hq := h.only q (List.mem_cons_of_mem _ hq)

/-- A setting named first is not named again. -/
theorem Named.unnamed_tail {σ : Setting} {p : String × String} (h : Named (p :: env))
    (hσ : σ.isNamed p.1) : σ.Unnamed env := by
  have hcount := h.once σ
  simp only [List.countP_cons, hσ, if_true] at hcount
  have hnone : (env.countP fun q => σ.isNamed q.1) = 0 := by omega
  intro q hq
  simpa using List.countP_eq_zero.1 hnone q hq

/-- The environment leaves the sections as they are. -/
theorem clear_environment (henv : Named env) {c : Configuration} {σ : Setting}
    (hc : c.Clear σ.path) : (withLayer c (Environment.layer env)).Clear σ.path := by
  induction env generalizing c with
  | nil => exact hc
  | cons p env ih =>
    obtain ⟨c', hlays, heq⟩ := exists_lays (henv.only p List.mem_cons_self) c p.2 env
    rw [heq]
    exact ih henv.tail (hlays.clear hc)

/-- The environment leaves a setting that it does not name. -/
theorem reach?_of_unnamed (henv : Named env) (c : Configuration) {σ : Setting}
    (hσ : σ.Unnamed env) :
    (withLayer c (Environment.layer env)).reach? σ.path = c.reach? σ.path := by
  induction env generalizing c with
  | nil => rfl
  | cons p env ih =>
    -- what comes after the first variable is laid over what it leaves
    obtain ⟨c', hlays, heq⟩ := exists_lays (henv.only p List.mem_cons_self) c p.2 env
    obtain ⟨hp, hrest⟩ := List.forall_mem_cons.1 hσ
    rw [heq, ih henv.tail c' hrest, hlays.unnamed hp]

/-- The environment puts the text of a variable in its setting's place. -/
theorem reach?_of_named (henv : Named env) (c : Configuration) {σ : Setting}
    (hmem : (name, text) ∈ env) (hσ : σ.isNamed name) :
    (withLayer c (Environment.layer env)).reach? σ.path =
      some (.scalar (some .environment) (Environment.scalar text)) := by
  induction env generalizing c with
  | nil => cases hmem
  | cons p env ih =>
    obtain ⟨c', hlays, heq⟩ := exists_lays (henv.only p List.mem_cons_self) c p.2 env
    rw [heq]
    rcases List.mem_cons.1 hmem with rfl | hmem
    · -- no later variable is laid over this one
      rw [reach?_of_unnamed henv.tail c' (henv.unnamed_tail hσ), hlays.named hσ]
    · exact ih henv.tail c' hmem

/-! ### Values -/

/-- What stands at a setting's place is of its type, or else the value is the default. -/
def IsLeaf (σ : Setting) (x : Option Configuration) (v : σ.Value) : Prop :=
  match x with
  | some x => ∃ origin s, x = .scalar origin s ∧ σ.Fits s v
  | none => v = σ.get {}

theorem scalar_name (p : TerminatedPolicy) :
    Environment.scalar p.name = .text p.name := by
  cases p <;> decide +kernel

/-- What a variable's text says is what the text counts as. -/
theorem Spells.fits {σ : Setting} {v : σ.Value} (h : σ.Spells text v) :
    σ.Fits (Environment.scalar text) v := by
  cases σ with
  | logLevel | url =>
    obtain ⟨rfl, hliteral⟩ := h
    exact Environment.scalar_of_not_isLiteral hliteral
  | connectTimeout => exact Environment.scalar_of_integer? h
  | maxMessageSize | maxFrameSize =>
    obtain ⟨n, hn, rfl⟩ := h
    exact ⟨n, Environment.scalar_of_integer? hn, rfl⟩
  | acceptUnmaskedFrames => exact Environment.scalar_of_boolean? h
  | onTerminated =>
    obtain rfl : text = TerminatedPolicy.name v := h
    exact scalar_name v

/-- How a setting is read. -/
def read : (σ : Setting) → Configuration → Except Misfit σ.Value
  | logLevel | url => readText
  | connectTimeout => readNatural
  | maxMessageSize | maxFrameSize => readOptional
  | acceptUnmaskedFrames => readFlag
  | onTerminated => readChoice "TerminatedPolicy" TerminatedPolicy.ofName?

theorem ofName?_name (p : TerminatedPolicy) : TerminatedPolicy.ofName? p.name = some p := by
  cases p <;> decide

/-- A scalar of a setting's type is read as the value it is. -/
theorem read_of_fits {σ : Setting} {s : Scalar} {v : σ.Value} (h : σ.Fits s v)
    (origin : Option Origin) : σ.read (.scalar origin s) = .ok v := by
  cases σ with
  | logLevel | url =>
    obtain rfl : s = .text v := h
    rfl
  | connectTimeout =>
    obtain rfl : s = .integer (v : Nat) := h
    simp [read, readNatural]
  | maxMessageSize | maxFrameSize =>
    obtain ⟨n, rfl, rfl⟩ := h
    simp [read, readOptional, readNatural, Except.map]
  | acceptUnmaskedFrames =>
    obtain rfl : s = .boolean v := h
    rfl
  | onTerminated =>
    obtain rfl : s = .text (TerminatedPolicy.name v) := h
    simp [read, readChoice, ofName?_name]

end Setting

/-! ### Sections -/

namespace Settings

variable {c : Configuration} {place : List String} {v : (σ : Setting) → σ.Value} {name : String}

/-- What the section at a place holds of the settings in it: their sections are tables,
    and at their own places are values of their types, if anything. -/
structure Holds (place : List String) (c : Configuration) (v : (σ : Setting) → σ.Value) :
    Prop where
  clear {σ : Setting} {keys : List String} : σ.path = place ++ keys → c.Clear keys
  leaf {σ : Setting} {keys : List String} :
    σ.path = place ++ keys → σ.IsLeaf (c.reach? keys) (v σ)

/-- A section inside holds the settings inside. -/
theorem Holds.inside {x : Configuration} (h : Holds place c v)
    (hx : c.entries.get? name = some x) : Holds (place ++ [name]) x v where
  clear hσ := by
    rw [List.append_assoc] at hσ
    exact (h.clear hσ).2 x hx
  leaf hσ := by
    rw [List.append_assoc] at hσ
    have hleaf := h.leaf hσ
    rwa [List.singleton_append, reach?_cons, hx] at hleaf

/-- A setting whose section is not there is the default. -/
theorem Holds.get_default (h : Holds place c v) (hnone : c.entries.get? name = none)
    {σ : Setting} {keys : List String} (hσ : σ.path = place ++ name :: keys) :
    σ.get {} = v σ := by
  have hleaf := h.leaf hσ
  rw [reach?_cons, hnone] at hleaf
  exact Eq.symm hleaf

theorem checkSection_eq (hc : c.isTable) (name : String) : c.checkSection name = .ok () := by
  cases c with
  | scalar origin s => cases hc
  | array origin xs => cases hc
  | table origin es => rfl

/-- What is in a field of a table is read, or it is not there. -/
theorem readSection_eq {α : Type} {default a : α} {read : Configuration → Except ReadError α}
    (hc : c.isTable) (n : Nat) (hnone : c.entries.get? name = none → default = a)
    (hsome : ∀ x, c.entries.get? name = some x → read x = .ok a) :
    c.readSection n name default read = .ok a := by
  cases c with
  | scalar origin s => cases hc
  | array origin xs => cases hc
  | table origin es =>
    simp only [readSection, field?, entries_table] at hnone hsome ⊢
    cases hget : es.get? name with
    | none => simp [hnone hget]
    | some x => simp [hsome x hget, Except.mapError]

/-- A setting is read in its section. -/
theorem Holds.readField_eq (h : Holds place c v) (n : Nat) (σ : Setting)
    (hσ : σ.path = place ++ [name]) : c.readField n name (σ.get {}) σ.read = .ok (v σ) := by
  refine readSection_eq (h.clear hσ).1 n (fun hnone => h.get_default hnone hσ) (fun x hx => ?_)
  have hleaf := h.leaf hσ
  rw [reach?_singleton, hx] at hleaf
  obtain ⟨origin, s, rfl, hfits⟩ := hleaf
  rw [Setting.read_of_fits hfits]
  rfl

/-- A section of one setting is read. -/
theorem Holds.readOnly_eq (h : Holds place c v) (type : String) (n : Nat) (σ : Setting)
    (hσ : σ.path = place ++ [name]) :
    (do c.checkSection type; c.readField n name (σ.get {}) σ.read) = .ok (v σ) := by
  rw [checkSection_eq (h.clear hσ).1]
  exact h.readField_eq n σ hσ

/-- A setting is read with its section, there or not. -/
theorem Holds.readSection_eq (h : Holds place c v) (n : Nat) (σ : Setting) {keys : List String}
    {read : Configuration → Except ReadError σ.Value} (hσ : σ.path = place ++ name :: keys)
    (hread : ∀ x, Holds (place ++ [name]) x v → read x = .ok (v σ)) :
    c.readSection n name (σ.get {}) read = .ok (v σ) :=
  Settings.readSection_eq (h.clear hσ).1 n (fun hnone => h.get_default hnone hσ)
    (fun x hx => hread x (h.inside hx))

theorem readLogLevel_eq (h : Holds ["global"] c v) : readLogLevel c = .ok (v .logLevel) :=
  h.readOnly_eq "GlobalConfig" 0 .logLevel rfl

theorem readUrl_eq (h : Holds ["endpoint"] c v) : readUrl c = .ok (v .url) :=
  h.readOnly_eq "EndpointConfig" 0 .url rfl

theorem readOnTerminated_eq (h : Holds ["channel"] c v) :
    readOnTerminated c = .ok (v .onTerminated) :=
  h.readOnly_eq "ChannelConfig" 0 .onTerminated rfl

/-- The settings of some values. -/
def ofValues (v : (σ : Setting) → σ.Value) : Settings where
  logLevel := v .logLevel
  url := v .url
  transport := {
    connectTimeout := v .connectTimeout
    webSocket := {
      maxMessageSize := v .maxMessageSize
      maxFrameSize := v .maxFrameSize
      acceptUnmaskedFrames := v .acceptUnmaskedFrames } }
  onTerminated := v .onTerminated

theorem get_ofValues (v : (σ : Setting) → σ.Value) (σ : Setting) : σ.get (ofValues v) = v σ := by
  cases σ <;> rfl

theorem readWebSocket_eq (h : Holds ["transport", "websocket"] c v) :
    readWebSocket c = .ok (ofValues v).transport.webSocket := by
  have hpath : Setting.maxMessageSize.path = ["transport", "websocket"] ++ ["max_message_size"] :=
    rfl
  have hc : c.isTable := (h.clear hpath).1
  have hmessage : c.readField 0 "max_message_size" none readOptional =
      .ok (v .maxMessageSize) := h.readField_eq 0 .maxMessageSize hpath
  have hframe : c.readField 1 "max_frame_size" none readOptional =
      .ok (v .maxFrameSize) := h.readField_eq 1 .maxFrameSize rfl
  have hunmasked : c.readField 2 "accept_unmasked_frames" false readFlag =
      .ok (v .acceptUnmaskedFrames) := h.readField_eq 2 .acceptUnmaskedFrames rfl
  simp only [readWebSocket, checkSection_eq hc, hmessage, hframe, hunmasked]
  rfl

theorem readTransport_eq (h : Holds ["transport"] c v) :
    readTransport c = .ok (ofValues v).transport := by
  have hpath : Setting.connectTimeout.path = ["transport"] ++ ["connect_timeout_ms"] := rfl
  have hc : c.isTable := (h.clear hpath).1
  have htimeout : c.readField 0 "connect_timeout_ms" ({} : TransportSettings).connectTimeout
      readNatural = .ok (v .connectTimeout) := h.readField_eq 0 .connectTimeout hpath
  have hwebSocket : c.readSection 1 "websocket" ({} : TransportSettings).webSocket
      readWebSocket = .ok (ofValues v).transport.webSocket := by
    refine readSection_eq hc 1 (fun hnone => ?_) (fun x hx => readWebSocket_eq (h.inside hx))
    have hmessage := h.get_default hnone (show Setting.maxMessageSize.path = _ from rfl)
    have hframe := h.get_default hnone (show Setting.maxFrameSize.path = _ from rfl)
    have hunmasked := h.get_default hnone (show Setting.acceptUnmaskedFrames.path = _ from rfl)
    simp only [ofValues, ← hmessage, ← hframe, ← hunmasked]
    rfl
  simp only [readTransport, checkSection_eq hc, htimeout, hwebSocket]
  rfl

/-- A configuration is read setting by setting. -/
theorem ofConfiguration_eq (h : Holds [] c v) : ofConfiguration c = .ok (ofValues v) := by
  have hpath : Setting.connectTimeout.path = [] ++ ["transport", "connect_timeout_ms"] := rfl
  have hlogLevel : c.readSection 0 "global" ({} : Settings).logLevel readLogLevel =
      .ok (v .logLevel) := h.readSection_eq 0 .logLevel rfl fun _ => readLogLevel_eq
  have hurl : c.readSection 1 "endpoint" ({} : Settings).url readUrl = .ok (v .url) :=
    h.readSection_eq 1 .url rfl fun _ => readUrl_eq
  have htransport : c.readSection 2 "transport" ({} : Settings).transport readTransport =
      .ok (ofValues v).transport := by
    -- without the section all four settings in it are defaults
    refine readSection_eq (h.clear hpath).1 2 (fun hnone => ?_)
      (fun x hx => readTransport_eq (h.inside hx))
    have htimeout := h.get_default hnone hpath
    have hmessage := h.get_default hnone (show Setting.maxMessageSize.path = _ from rfl)
    have hframe := h.get_default hnone (show Setting.maxFrameSize.path = _ from rfl)
    have hunmasked := h.get_default hnone (show Setting.acceptUnmaskedFrames.path = _ from rfl)
    simp only [ofValues, ← htimeout, ← hmessage, ← hframe, ← hunmasked]
    rfl
  have honTerminated : c.readSection 3 "channel" ({} : Settings).onTerminated
      readOnTerminated = .ok (v .onTerminated) :=
    h.readSection_eq 3 .onTerminated rfl fun _ => readOnTerminated_eq
  simp only [ofConfiguration, hlogLevel, hurl, htransport, honTerminated]
  rfl

/-! ### Layers -/

/-- The entries of the lowest layer. -/
def lowest : Entries :=
  let default : Settings := {}
  .cons "global" (.table none (.cons "log_level" (.scalar none (.text default.logLevel)) .nil))
    (.cons "endpoint" (.table none (.cons "url" (.scalar none (.text default.url)) .nil)) .nil)

theorem withLayer_defaults : withLayer empty defaults = .table none lowest := by
  decide +kernel

theorem clear_lowest (σ : Setting) : (Configuration.table none lowest).Clear σ.path := by
  cases σ <;> decide +kernel

/-- The lowest layer holds nothing but defaults. -/
theorem isLeaf_lowest (σ : Setting) :
    σ.IsLeaf ((Configuration.table none lowest).reach? σ.path) (σ.get {}) := by
  cases σ with
  | logLevel | url => exact ⟨none, _, rfl, rfl⟩
  | connectTimeout | maxMessageSize | maxFrameSize | acceptUnmaskedFrames | onTerminated => rfl

end Settings

open Settings

/-- The value that the layers give a setting is at its place once they are laid over
    each other. -/
theorem Setting.Decided.isLeaf {file : Entries} {env : Environment} {σ : Setting} {v : σ.Value}
    (hd : file.Distinct) (hfile : Setting.Placed file) (henv : Setting.Named env)
    (hv : σ.Decided file env v) :
    σ.IsLeaf ((withLayer ((Configuration.table none file).laidOver (.table none lowest))
      (Environment.layer env)).reach? σ.path) v := by
  cases hv with
  | environment hmem hσ hspells =>
    rw [Setting.reach?_of_named henv _ hmem hσ]
    exact ⟨_, _, rfl, hspells.fits⟩
  | file hσ hplace hfits =>
    rw [Setting.inFile?] at hplace
    rw [Setting.reach?_of_unnamed henv _ hσ,
      reach?_laidOver (distinct_table.2 hd) (hfile.clear σ), hplace]
    exact ⟨_, _, rfl, hfits⟩
  | default hσ hplace =>
    rw [Setting.inFile?] at hplace
    rw [Setting.reach?_of_unnamed henv _ hσ,
      reach?_laidOver (distinct_table.2 hd) (hfile.clear σ), hplace]
    exact isLeaf_lowest σ

/-- The settings are loaded, and each is what its variable says, else what the file
    says at its place, else the default. Neither the order of variables or of the file's
    entries nor unknown keys in the file nor what a variable overrides there has a say in it. -/
theorem Settings.load_layered {d : Directory} {env : Environment} {file : Entries}
    (hfile : d.loadIfThere fileStem = .ok file.toList) (hplaced : Setting.Placed file)
    (hnamed : Setting.Named env) {v : (σ : Setting) → σ.Value}
    (hv : ∀ σ : Setting, σ.Decided file env (v σ)) (a : Arrangement) :
    ∃ s, Settings.load d env a = .ok s ∧ ∀ σ : Setting, σ.get s = v σ := by
  have hd : file.Distinct := Directory.distinct_of_loadIfThere hfile
  have hundisputed : ∀ entries, d.loadIfThere fileStem = .ok entries → Undisputed entries := by
    intro entries hentries
    rw [hfile] at hentries
    exact Except.ok.inj hentries ▸ undisputed_toList hd hplaced.plain
  have hholds : Holds [] (withLayer ((Configuration.table none file).laidOver
      (.table none lowest)) (Environment.layer env)) v := by
    -- the sections come from all three layers, the settings' places from the deciding one
    constructor
    · rintro σ keys rfl
      refine Setting.clear_environment hnamed ?_
      exact (hplaced.clear σ).laidOver (distinct_table.2 hd) (clear_lowest σ)
    · rintro σ keys rfl
      exact (hv σ).isLeaf hd hplaced hnamed
  refine ⟨ofValues v, ?_, get_ofValues v⟩
  calc Settings.load d env a
      = Settings.load d env := load_arrangement hundisputed env a
    _ = ofLayers [defaults, file.toList, Environment.layer env] := by
          rw [Settings.load, hfile]
          rfl
    _ = (ofConfiguration (withLayer (withLayer (.table none lowest) file.toList)
          (Environment.layer env))).mapError .misfit := by
          rw [← withLayer_defaults]
          rfl
    _ = .ok (ofValues v) := by
          rw [withLayer_toList none none lowest file hplaced.plain, ofConfiguration_eq hholds]
          rfl

namespace Settings

/-- A file with a key that is no setting, and with a timeout that is no number. -/
def mixedText : String :=
  "colour = 3\n[transport]\nconnect_timeout_ms = \"soon\"\n[channel]\non_terminated = \"replace\""

/-- What that file holds. -/
def mixedEntries : Entries :=
  let origin := some (Origin.file "relay.toml")
  .cons "colour" (.scalar origin (.integer 3))
    (.cons "transport"
      (.table origin (.cons "connect_timeout_ms" (.scalar origin (.text "soon")) .nil))
      (.cons "channel"
        (.table origin (.cons "on_terminated" (.scalar origin (.text "replace")) .nil)) .nil))

/-- Variables in any case, of which one is no setting. -/
def mixedVariables : Environment := [
  ("relay_Transport__Connect_Timeout_Ms", "1500"),
  ("PATH", "/bin"),
  ("RELAY_GLOBAL__LOG_LEVEL", "debug")]

/-- What the file and the variables come to. -/
def mixedValues : (σ : Setting) → σ.Value
  | .logLevel => "debug"
  | .url => "ws://localhost:4040"
  | .connectTimeout => (1500 : Nat)
  | .maxMessageSize => none
  | .maxFrameSize => none
  | .acceptUnmaskedFrames => false
  | .onTerminated => .replace

theorem loadIfThere_mixed : Directory.loadIfThere ⟨"/", [("relay.toml", mixedText)]⟩ fileStem =
    .ok mixedEntries.toList := by
  decide +kernel

theorem isNamed_timeout : Setting.connectTimeout.isNamed "relay_Transport__Connect_Timeout_Ms" := by
  decide +kernel

theorem isNamed_level : Setting.logLevel.isNamed "RELAY_GLOBAL__LOG_LEVEL" := by
  decide

theorem key?_search : Environment.key? "PATH" = none := by
  decide

theorem named_mixed : Setting.Named mixedVariables where
  once σ := by
    simp only [mixedVariables, List.countP_cons, List.countP_nil,
      Setting.isNamed_eq_decide isNamed_timeout, Setting.isNamed_eq_false key?_search,
      Setting.isNamed_eq_decide isNamed_level]
    cases σ <;> decide
  only := by
    intro p hp
    simp only [mixedVariables, List.mem_cons, List.not_mem_nil, or_false] at hp
    rcases hp with rfl | rfl | rfl
    · exact .inl ⟨_, isNamed_timeout⟩
    · exact .inr key?_search
    · exact .inl ⟨_, isNamed_level⟩

theorem placed_mixed : Setting.Placed mixedEntries where
  plain := by decide
  clear σ := by cases σ <;> decide

theorem unnamed_mixed {σ : Setting} (htimeout : σ ≠ .connectTimeout) (hlevel : σ ≠ .logLevel) :
    σ.Unnamed mixedVariables := by
  intro p hp
  simp only [mixedVariables, List.mem_cons, List.not_mem_nil, or_false] at hp
  rcases hp with rfl | rfl | rfl
  · rw [Setting.isNamed_eq_decide isNamed_timeout, decide_eq_false htimeout]
  · exact Setting.isNamed_eq_false key?_search
  · rw [Setting.isNamed_eq_decide isNamed_level, decide_eq_false hlevel]

theorem decided_mixed (σ : Setting) :
    σ.Decided mixedEntries mixedVariables (mixedValues σ) := by
  cases σ with
  | logLevel =>
    have hmem : ("RELAY_GLOBAL__LOG_LEVEL", "debug") ∈ mixedVariables := by simp [mixedVariables]
    exact .environment hmem isNamed_level ⟨rfl, by decide⟩
  | connectTimeout =>
    have hmem : ("relay_Transport__Connect_Timeout_Ms", "1500") ∈ mixedVariables :=
      List.mem_cons_self
    have hvalue : Environment.integer? "1500".toList = some 1500 := by decide
    exact .environment hmem isNamed_timeout hvalue
  | onTerminated => exact .file (unnamed_mixed (by decide) (by decide)) rfl rfl
  | url | maxMessageSize | maxFrameSize | acceptUnmaskedFrames =>
    exact .default (unnamed_mixed (by decide) (by decide)) rfl

/-- The level and the timeout are of the environment, though the file has a timeout that
    is no number, the policy is of the file, and the rest are defaults. -/
theorem load_layered_mixed :
    (∀ σ : Setting, σ.Decided mixedEntries mixedVariables (mixedValues σ)) ∧
      ∃ s, Settings.load ⟨"/", [("relay.toml", mixedText)]⟩ mixedVariables .reversed = .ok s ∧
        ∀ σ : Setting, σ.get s = mixedValues σ :=
  ⟨decided_mixed, load_layered loadIfThere_mixed placed_mixed named_mixed decided_mixed _⟩

end Settings

end PartyLine
