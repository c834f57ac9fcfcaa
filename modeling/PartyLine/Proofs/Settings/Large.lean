import PartyLine.Proofs.Double
import PartyLine.Proofs.Settings

/-!
# Large naturals in variables

Timeouts and limits are naturals below `2 ^ 64`, and a file has them as they are. The text of a
variable counts as an integer only if that fits 64 bits with sign; above it counts as a real, so
the upper half of the naturals is loaded from variables by way of doubles: rounded to a multiple
of 2048, and held at the greatest natural.

The way of a large natural has three parts. Its digits are no integer of 64 bits with sign, so they
are read as a real, which is the double nearest to it: in the upper half the doubles are the
multiples of 2048, and the natural is rounded to one, a tie to the even multiple. As a natural
that double is itself, or the greatest natural where the double is `2 ^ 64`. And what the
variable puts at the place of its setting is what is read there, whatever else is
loaded, as the last variable of that name has the last word.

* `Double.ofRatio?_large`: such a natural as a double;
* `Environment.scalar_repr_large`: its decimal text as a variable has it;
* `Setting.rounded`, `Setting.rounded_eq_iff`: what it is loaded as, and when that is itself;
* `Settings.read_of_ofConfiguration`: a setting is read from what stands in its place;
* `Settings.reach?_of_last`: what a variable puts there;
* `Settings.load_large`: what is loaded, whatever else the file and the variables say, and
  `Settings.not_load_large`: a natural that another one is loaded for.
-/

namespace PartyLine

open PartyLine.Configuration

/-! ## Large naturals as doubles -/

namespace Double

variable {n : Nat}

/-- Numbers from `2 ^ 63` to `2 ^ 64` are rounded to multiples of `2 ^ 11`. -/
theorem isUnit_large (hlow : 2 ^ 63 ≤ n) (hhigh : n < 2 ^ 64) :
    IsUnit ((n : ℚ) / (1 : Nat)) 11 := by
  have hlow : (2 : ℚ) ^ 63 ≤ n := by exact_mod_cast hlow
  have hhigh : (n : ℚ) < 2 ^ 64 := by exact_mod_cast hhigh
  rw [Nat.cast_one, div_one]
  exact ⟨by norm_num at hhigh ⊢; exact hhigh, by decide, .inl (by norm_num at hlow ⊢; exact hlow)⟩

/-- The double nearest to such a number, and the natural nearest to that double. -/
theorem ofRatio?_large (hlow : 2 ^ 63 ≤ n) (hhigh : n < 2 ^ 64) : ∃ x,
    ofRatio? false n 1 = some x ∧ x.negative = false ∧ x.roundAbs = 2048 * roundEven n 2048 := by
  have hround : roundAt n 1 11 = roundEven n 2048 := by
    show roundEven (n * 1) (1 * 2048) = _
    rw [Nat.mul_one, Nat.one_mul]
  have hbounds : 0x10000000000000 ≤ roundEven n 2048 ∧ roundEven n 2048 ≤ 0x20000000000000 := by
    rw [roundEven]
    split <;> omega
  rw [ofRatio?_eq false (by omega) one_pos (isUnit_large hlow hhigh), hround]
  generalize roundEven n 2048 = m at hbounds
  by_cases hm : m = 0x20000000000000
  · refine ⟨⟨false, 0x10000000000000, 12, by decide⟩, ?_, rfl, ?_⟩
    · rw [if_pos hm]
      rfl
    · rw [hm]
      rfl
  · have hcanonical : Canonical m 11 := ⟨by omega, by decide, by decide, .inl hbounds.1⟩
    refine ⟨⟨false, m, 11, hcanonical⟩, ?_, rfl, ?_⟩
    · rw [if_neg hm, ofFields?, dif_pos hcanonical]
    · have hnum : Double.num ⟨false, m, 11, hcanonical⟩ = m * 2048 := rfl
      have hden : Double.den ⟨false, m, 11, hcanonical⟩ = 1 := rfl
      rw [roundAbs, hnum, hden]
      omega

end Double

namespace Configuration.Environment

variable {n : Nat}

theorem decimal?_toDigits (negative : Bool) (n : Nat) :
    decimal? negative (Nat.toDigits 10 n) =
      some (.ofRounded negative (Double.ofDecimal? negative n 0)) := by
  have hdigits : ∀ c ∈ Nat.toDigits 10 n, c.isDigit :=
    fun _ => Json.Reader.isDigit_of_mem_toDigits
  have hwhole : (Nat.toDigits 10 n).takeWhile Char.isDigit = Nat.toDigits 10 n :=
    List.takeWhile_eq_self_iff.2 hdigits
  have hrest : (Nat.toDigits 10 n).dropWhile Char.isDigit = [] :=
    List.dropWhile_eq_nil_iff.2 hdigits
  simp only [decimal?, hwhole, hrest, List.append_nil, natural?_toDigits]
  rfl

/-- Digits are a number, and no word for one. -/
theorem real?_toDigits (n : Nat) :
    real? (Nat.toDigits 10 n) = some (.ofRounded false (Double.ofDecimal? false n 0)) := by
  obtain ⟨c, cs, hcs⟩ := List.exists_cons_of_ne_nil (@Nat.toDigits_ne_nil n 10)
  have hc : c.isDigit := Json.Reader.isDigit_of_mem_toDigits (hcs ▸ List.mem_cons_self)
  have hopens : opensNumber c := by simp [opensNumber, hc]
  have hlower : c.toLower = c := (toLower_of_opensNumber hopens).2
  have hword : ∀ word, String.ofList ((Nat.toDigits 10 n).map Char.toLower) = word →
      word.toList.head?.any Char.isDigit := by
    rintro word rfl
    simp [hcs, hlower, hc]
  rw [real?, splitSign_toDigits]
  dsimp only
  split
  · next h => exact absurd (hword _ h) (by decide)
  · next h => exact absurd (hword _ h) (by decide)
  · next h => exact absurd (hword _ h) (by decide)
  · exact decimal?_toDigits false n

/-- A natural is rounded once. -/
theorem ofDecimal?_natural (hpos : 0 < n) (hhigh : n < 2 ^ 64) :
    Double.ofDecimal? false n 0 = Double.ofRatio? false n 1 := by
  have hlength : (Nat.toDigits 10 n).length ≤ 20 :=
    (Nat.length_toDigits_le_iff (by decide) (by decide)).2 (by omega)
  rw [Double.ofDecimal?, if_neg (by omega), if_neg (by omega)]
  norm_num

/-- The text of a natural above the integers of 64 bits with sign counts as a real. -/
theorem scalar_repr_large (hlow : 2 ^ 63 ≤ n) (hhigh : n < 2 ^ 64) : ∃ x : Double,
    scalar n.repr = .real (.finite x) ∧ x.negative = false ∧
      x.roundAbs = 2048 * Double.roundEven n 2048 := by
  obtain ⟨x, hx, hnegative, hround⟩ := Double.ofRatio?_large hlow hhigh
  have htext : n.repr.toList = Nat.toDigits 10 n := by simp
  have hboolean : boolean? n.repr = none := by
    refine boolean?_of_natural? (n := n) ?_
    rw [htext, splitSign_toDigits]
    exact natural?_toDigits n
  have hinteger : integer? n.repr.toList = none := by
    rw [htext, integer?, splitSign_toDigits]
    simp [natural?_toDigits]
    omega
  have hreal : real? n.repr.toList = some (.finite x) := by
    rw [htext, real?_toDigits, ofDecimal?_natural (by omega) hhigh, hx]
    rfl
  refine ⟨x, ?_, hnegative, hround⟩
  simp only [scalar, hboolean, hinteger, hreal]

end Configuration.Environment

/-! ## Reading them -/

namespace Setting

/-- The settings that are naturals below `2 ^ 64`. -/
def IsNatural (σ : Setting) : Prop := σ = .connectTimeout ∨ σ = .maxMessageSize ∨ σ = .maxFrameSize

instance (σ : Setting) : Decidable σ.IsNatural := inferInstanceAs (Decidable (_ ∨ _))

/-- What the text of a large natural is loaded as: the nearest multiple of 2048, the even one of
    two, but no more than the greatest natural of 64 bits. -/
def rounded (n : Nat) : Nat := min 0xffffffffffffffff (2048 * Double.roundEven n 2048)

/-- Only multiples of 2048 and the greatest natural are loaded as they are. -/
theorem rounded_eq_iff {n : Nat} (hhigh : n < 2 ^ 64) :
    rounded n = n ↔ 2048 ∣ n ∨ n = 2 ^ 64 - 1 := by
  rw [rounded, Double.roundEven]
  split <;> omega

variable {σ : Setting}

/-- A double is read as the natural nearest to it. -/
theorem read_real (hσ : σ.IsNatural) {v : σ.Value} {origin : Option Origin} {x : Double}
    (hx : x.negative = false) (h : σ.read (.scalar origin (.real (.finite x))) = .ok v) :
    σ.Fits (.integer (min 0xffffffffffffffff x.roundAbs : Nat)) v := by
  have hclamp : (ExtendedDouble.finite x).clampNat 0xffffffffffffffff =
      min 0xffffffffffffffff x.roundAbs := by
    rw [ExtendedDouble.clampNat, hx]
    rfl
  rcases hσ with rfl | hlimit
  · obtain rfl : (ExtendedDouble.finite x).clampNat 0xffffffffffffffff = v := Except.ok.inj h
    exact congrArg (fun n : Nat => Scalar.integer n) hclamp.symm
  · rcases hlimit with rfl | rfl
    all_goals
      obtain rfl : some ((ExtendedDouble.finite x).clampNat 0xffffffffffffffff) = v :=
        Except.ok.inj h
      exact ⟨_, rfl, congrArg some hclamp⟩

/-- A value is one natural. -/
theorem Fits.natural_unique (hσ : σ.IsNatural) {v : σ.Value} {m n : Nat}
    (hm : σ.Fits (.integer m) v) : σ.Fits (.integer n) v ↔ m = n := by
  rcases hσ with rfl | hlimit
  · obtain rfl : m = v := by simpa [Fits] using hm
    simp [Fits, eq_comm]
  · rcases hlimit with rfl | rfl
    all_goals
      obtain ⟨k, hk, rfl⟩ := hm
      obtain rfl : m = k := by simpa using hk
      simp [Fits]

end Setting

namespace Settings

variable {c : Configuration} {name : String} {s : Settings}

theorem of_bind {ε α β : Type} {x : Except ε α} {k : α → Except ε β} {b : β}
    (h : x >>= k = .ok b) : ∃ a, x = .ok a ∧ k a = .ok b := by
  cases x with
  | error e => cases h
  | ok a => exact ⟨a, rfl, h⟩

theorem of_mapError {ε ε' α : Type} {x : Except ε α} {f : ε → ε'} {a : α}
    (h : x.mapError f = .ok a) : x = .ok a := by
  cases x with
  | error e => cases h
  | ok b =>
    cases h
    rfl

/-- What is in a field of a section that is read is read. -/
theorem read_of_readSection {α : Type} {default a : α} {read : Configuration → Except ReadError α}
    {n : Nat} {x : Configuration} (hx : c.entries.get? name = some x)
    (h : c.readSection n name default read = .ok a) : read x = .ok a := by
  cases c with
  | scalar | array => cases hx
  | table origin es =>
    rw [entries_table] at hx
    simp only [readSection, field?, hx, Option.map_some] at h
    exact of_mapError h

theorem read_of_readField {α : Type} {default a : α} {read : Configuration → Except Misfit α}
    {n : Nat} {x : Configuration} (hx : c.entries.get? name = some x)
    (h : c.readField n name default read = .ok a) : read x = .ok a :=
  of_mapError (read_of_readSection hx h)

theorem fields_of_readWebSocket {w : WebSocketOptions} (h : readWebSocket c = .ok w) :
    c.readField 0 "max_message_size" none readOptional = .ok w.maxMessageSize ∧
      c.readField 1 "max_frame_size" none readOptional = .ok w.maxFrameSize := by
  obtain ⟨_, -, h⟩ := of_bind h
  obtain ⟨message, hmessage, h⟩ := of_bind h
  obtain ⟨frame, hframe, h⟩ := of_bind h
  obtain ⟨_, -, h⟩ := of_bind h
  cases h
  exact ⟨hmessage, hframe⟩

theorem fields_of_readTransport {t : TransportSettings} (h : readTransport c = .ok t) :
    c.readField 0 "connect_timeout_ms" ({} : TransportSettings).connectTimeout readNatural =
        .ok t.connectTimeout ∧
      c.readSection 1 "websocket" ({} : TransportSettings).webSocket readWebSocket =
        .ok t.webSocket := by
  obtain ⟨_, -, h⟩ := of_bind h
  obtain ⟨timeout, htimeout, h⟩ := of_bind h
  obtain ⟨webSocket, hwebSocket, h⟩ := of_bind h
  cases h
  exact ⟨htimeout, hwebSocket⟩

theorem transport_of_ofConfiguration (h : ofConfiguration c = .ok s) :
    c.readSection 2 "transport" ({} : Settings).transport readTransport = .ok s.transport := by
  obtain ⟨_, -, h⟩ := of_bind h
  obtain ⟨_, -, h⟩ := of_bind h
  obtain ⟨transport, htransport, h⟩ := of_bind h
  obtain ⟨_, -, h⟩ := of_bind h
  cases h
  exact htransport

theorem transportFields_of_ofConfiguration {t : Configuration}
    (h : ofConfiguration c = .ok s) (ht : c.reach? ["transport"] = some t) :
    t.readField 0 "connect_timeout_ms" ({} : TransportSettings).connectTimeout readNatural =
        .ok s.transport.connectTimeout ∧
      t.readSection 1 "websocket" ({} : TransportSettings).webSocket readWebSocket =
        .ok s.transport.webSocket := by
  rw [reach?_singleton] at ht
  exact fields_of_readTransport (read_of_readSection ht (transport_of_ofConfiguration h))

theorem webSocketFields_of_ofConfiguration {w : Configuration}
    (h : ofConfiguration c = .ok s) (hw : c.reach? ["transport", "websocket"] = some w) :
    w.readField 0 "max_message_size" none readOptional =
        .ok s.transport.webSocket.maxMessageSize ∧
      w.readField 1 "max_frame_size" none readOptional =
        .ok s.transport.webSocket.maxFrameSize := by
  obtain ⟨t, ht, hw⟩ := exists_reach?_of_concat ["transport"] hw
  exact fields_of_readWebSocket (read_of_readSection hw (transportFields_of_ofConfiguration h ht).2)

/-- What is loaded for such a setting is read from what stands in its place, if anything does. -/
theorem read_of_ofConfiguration {σ : Setting} (hσ : σ.IsNatural) {x : Configuration}
    (hx : c.reach? σ.path = some x) (h : ofConfiguration c = .ok s) :
    σ.read x = .ok (σ.get s) := by
  rcases hσ with rfl | rfl | rfl
  · obtain ⟨t, ht, hx⟩ := exists_reach?_of_concat ["transport"] hx
    exact read_of_readField hx (transportFields_of_ofConfiguration h ht).1
  · obtain ⟨w, hw, hx⟩ := exists_reach?_of_concat ["transport", "websocket"] hx
    exact read_of_readField hx (webSocketFields_of_ofConfiguration h hw).1
  · obtain ⟨w, hw, hx⟩ := exists_reach?_of_concat ["transport", "websocket"] hx
    exact read_of_readField hx (webSocketFields_of_ofConfiguration h hw).2

/-! ## Loading them -/

variable {env later : Environment}

/-- Later variables that name other places leave what a path leads to. -/
theorem reach?_of_beside {keys : List String}
    (h : ∀ p ∈ env, ∀ key, Environment.key? p.1 = some key → Beside (Path.parse key) keys)
    (c : Configuration) : (withLayer c (Environment.layer env)).reach? keys = c.reach? keys := by
  induction env generalizing c with
  | nil => rfl
  | cons p env ih =>
    obtain ⟨hp, hrest⟩ := List.forall_mem_cons.1 h
    cases hkey : Environment.key? p.1 with
    | none =>
      simp only [Environment.layer, List.filterMap_cons, hkey, Option.map_none]
      exact ih hrest c
    | some key =>
      simp only [Environment.layer, List.filterMap_cons, hkey, Option.map_some]
      exact (ih hrest _).trans (reach?_alter_of_beside _ _ (hp key hkey))

/-- The text of a setting's variable stands in the setting's place if the later variables name
    others, whatever the earlier ones have left there. -/
theorem reach?_of_last (env : Environment) (text : String) {σ : Setting} (hname : σ.isNamed name)
    (hlater : ∀ p ∈ later, ∀ key, Environment.key? p.1 = some key → Beside (Path.parse key) σ.path)
    (c : Configuration) :
    (withLayer c (Environment.layer (env ++ (name, text) :: later))).reach? σ.path =
      some (.scalar (some .environment) (Environment.scalar text)) := by
  have hlayer : Environment.layer (env ++ (name, text) :: later) =
      Environment.layer env ++
        (σ.key, .scalar (some .environment) (Environment.scalar text)) ::
          Environment.layer later := by
    simp only [Environment.layer, List.filterMap_append, List.filterMap_cons,
      Setting.key?_of_isNamed hname, Option.map_some]
  rw [hlayer, withLayer, List.foldl_append, List.foldl_cons]
  refine (reach?_of_beside hlater _).trans ?_
  show (assign _ (Path.parse σ.key) _).reach? σ.path = _
  rw [Setting.parse_key, assign, reach?_alter_self]
  rfl

/-- A variable with the decimal text of a natural above the integers of 64 bits with sign: if
    settings are loaded, its setting is the natural rounded to a multiple of 2048. It is the
    natural itself exactly for multiples of 2048 and for the greatest one. -/
theorem load_large {σ : Setting} (hσ : σ.IsNatural) {n : Nat} (hlow : 2 ^ 63 ≤ n)
    (hhigh : n < 2 ^ 64) (hname : σ.isNamed name)
    (hlater : ∀ p ∈ later, ∀ key, Environment.key? p.1 = some key → Beside (Path.parse key) σ.path)
    {d : Directory} {a : Arrangement} (h : load d (env ++ (name, n.repr) :: later) a = .ok s) :
    σ.Fits (.integer (Setting.rounded n)) (σ.get s) ∧
      (σ.Fits (.integer n) (σ.get s) ↔ 2048 ∣ n ∨ n = 2 ^ 64 - 1) := by
  obtain ⟨file, -, h⟩ := of_bind h
  have hc := of_mapError h
  rw [List.foldl_cons, List.foldl_cons, List.foldl_cons, List.foldl_nil] at hc
  obtain ⟨x, hscalar, hnegative, hround⟩ := Environment.scalar_repr_large hlow hhigh
  have hplace := reach?_of_last env n.repr hname hlater
    ((empty.withLayer defaults).withLayer (a.order file))
  rw [hscalar] at hplace
  have hfits := Setting.read_real hσ hnegative (read_of_ofConfiguration hσ hplace hc)
  rw [hround] at hfits
  refine ⟨hfits, ?_⟩
  rw [hfits.natural_unique hσ]
  exact Setting.rounded_eq_iff hhigh

/-- A variable in lower case with another one after it. -/
def largeVariables : Environment :=
  [] ++ ("relay_transport__connect_timeout_ms", (2 ^ 63 + 2048).repr) :: [("RELAY_COLOUR", "3")]

/-- A directory whose only file has a timeout that is no number. -/
def largeDirectory : Directory :=
  ⟨"/", [("relay.json", "\x7b\"transport\": \x7b\"connect_timeout_ms\": \"soon\"\x7d\x7d")]⟩

theorem load_large_timeout : ∃ s, load largeDirectory largeVariables = .ok s ∧
    s.transport.connectTimeout = 2 ^ 63 + 2048 := by
  obtain ⟨s, hload⟩ : ∃ s, load largeDirectory largeVariables = .ok s :=
    ⟨{ transport := { connectTimeout := 2 ^ 63 + 2048 } }, by decide +kernel⟩
  have hlater : ∀ p ∈ [("RELAY_COLOUR", "3")], ∀ key, Environment.key? p.1 = some key →
      Beside (Path.parse key) Setting.connectTimeout.path := by
    intro p hp key hkey
    obtain rfl := List.mem_singleton.1 hp
    obtain rfl : "colour" = key := Option.some.inj (Eq.trans (by decide +kernel) hkey)
    exact .inl (by decide)
  have hexact := (load_large (.inl rfl) (by decide) (by decide) (by decide +kernel) hlater hload).2
  have hfits : Setting.connectTimeout.Fits (.integer (2 ^ 63 + 2048 : Nat))
      s.transport.connectTimeout := hexact.2 (.inl (by decide))
  exact ⟨s, hload, (Int.ofNat.inj (Scalar.integer.inj hfits)).symm⟩

/-- One more than the least large natural is loaded as that one from its variable, and as itself
    from a file. -/
theorem not_load_large :
    load ⟨"/", []⟩ [("RELAY_TRANSPORT__CONNECT_TIMEOUT_MS", (2 ^ 63 + 1).repr)] =
        .ok { transport := { connectTimeout := 2 ^ 63 } } ∧
      loadFrom ⟨"/", [("relay.json",
          "\x7b\"transport\": \x7b\"connect_timeout_ms\": 9223372036854775809\x7d\x7d")]⟩
        "relay.json" = .ok { transport := { connectTimeout := 2 ^ 63 + 1 } } ∧
      ¬ ∀ n s, 2 ^ 63 ≤ n → n < 2 ^ 64 →
        load ⟨"/", []⟩ [("RELAY_TRANSPORT__CONNECT_TIMEOUT_MS", n.repr)] = .ok s →
          s.transport.connectTimeout = n := by
  have hload : load ⟨"/", []⟩ [("RELAY_TRANSPORT__CONNECT_TIMEOUT_MS", (2 ^ 63 + 1).repr)] =
      .ok { transport := { connectTimeout := 2 ^ 63 } } := by
    decide +kernel
  refine ⟨hload, by decide +kernel, fun h => ?_⟩
  exact absurd (h _ _ (by decide) (by decide) hload) (by decide)

end Settings

end PartyLine
