import PartyLine.Proofs.Double.Shortest
import PartyLine.Proofs.Json.Integer

/-!
# Doubles in text

A double is printed with the digits of its shortest decimal, in one of four shapes: with zeros
behind the digits, with the point inside them or before them, or with an exponent. Whatever the
shape, what is read are the same digits and the same power of ten, and the double is what two
roundings make of these. Where the first of the two changes nothing, the second gives the double
that the decimal is near, and so the one that was printed.

* `Double.double?_of_near`: reading digits that are a double rounds once;
* `Json.Reader.number_point`, `fractionPart_bounded`, `exponentPart_bounded`: the parts of a
  number, read up to what cannot go on it;
* `Double.decimal`, `Double.reread`: the digits of a double as a document has them, and what is
  read from them;
* `Json.Reader.number_magnitude`, `scalar_write`: the text of a double is read so;
* `Double.RoundsOnce`, `RoundsOnce.reread`: doubles that come back.
-/

namespace PartyLine

open Json.Reader

namespace Double

/-! ## Two roundings -/

/-- The powers of ten up to the twenty-second are doubles. -/
theorem powerOfTen_spec {n : Nat} (hn : n ≤ 22) : (powerOfTen n).negative = false ∧
    (powerOfTen n).significand ≠ 0 ∧ (powerOfTen n).magnitude = 10 ^ n := by
  have hlt : 5 ^ n < 2 ^ 53 :=
    Nat.lt_of_le_of_lt (Nat.pow_le_pow_right (by decide) hn) (by decide)
  obtain ⟨x, hnegative, hx, hmagnitude⟩ :=
    exists_magnitude n (Nat.pow_pos (by decide)) hlt (by omega)
  have hten : x.magnitude = 10 ^ n := by
    rw [hmagnitude, Nat.cast_pow, ← mul_pow]
    norm_num
  have hratio : ((Nat.pow 10 n : Nat) : ℚ) / (1 : Nat) = x.magnitude := by
    rw [hten, Nat.pow_eq]
    push_cast
    ring
  have hpower : powerOfTen n = x := by
    rw [powerOfTen, ofRatio?_of_eq_magnitude hx one_pos hratio, ← hnegative, withSign_self,
      Option.getD_some]
  rw [hpower]
  exact ⟨hnegative, hx, hten⟩

variable {x f : Double} {k : ℤ}

/-- One multiplication or division by an exact power of ten rounds once. -/
theorem scale?_of_near (fuel : Nat) (hf : f.significand ≠ 0) (hnegative : f.negative = false)
    (hk : k.natAbs ≤ 22) (h : x.Near (f.magnitude * 10 ^ k)) :
    scale? fuel f k = some (x.withSign false) := by
  obtain ⟨hpositive, hpower, hten⟩ := powerOfTen_spec hk
  have hfits : k.natAbs ≤ 308 := by omega
  have hnum := num_pos hf
  have hden := den_pos f
  rw [scale?.eq_def]
  simp only [hfits, if_true]
  split
  · next hpos =>
    have hratio : ((f.num * (powerOfTen k.natAbs).num : Nat) : ℚ) /
        (f.den * (powerOfTen k.natAbs).den : Nat) = f.magnitude * 10 ^ k := by
      have hexponent : (10 : ℚ) ^ k = 10 ^ k.natAbs := by
        rw [← zpow_natCast, Int.natAbs_of_nonneg hpos]
      rw [hexponent, ← hten, magnitude_eq_div, magnitude_eq_div]
      push_cast
      ring
    rw [mul?, hnegative, hpositive]
    exact ofRatio?_of_near (Nat.mul_pos hden (den_pos _)) (Nat.mul_pos hnum (num_pos hpower))
      (hratio ▸ h) false
  · next hneg =>
    have hratio : ((f.num * (powerOfTen k.natAbs).den : Nat) : ℚ) /
        (f.den * (powerOfTen k.natAbs).num : Nat) = f.magnitude * 10 ^ k := by
      have hexponent : (10 : ℚ) ^ k = (10 ^ k.natAbs)⁻¹ := by
        rw [← zpow_natCast, ← zpow_neg]
        congr 1
        omega
      rw [hexponent, ← hten, magnitude_eq_div, magnitude_eq_div, inv_div]
      push_cast
      rw [div_mul_div_comm]
    have hzero : (powerOfTen k.natAbs).isZero = false := by simpa [isZero] using hpower
    rw [div?, hzero, hnegative, hpositive]
    exact ofRatio?_of_near (Nat.mul_pos hden (num_pos hpower)) (Nat.mul_pos hnum (den_pos _))
      (hratio ▸ h) false

/-- Digits that are themselves a double, and not too great a power of ten, are read as the double
    that they are near. -/
theorem double?_of_near {f : Double} {s : Nat} (hs : f.magnitude = s) (hpos : 0 < s)
    (hk : k.natAbs ≤ 22) (h : x.Near (s * 10 ^ k)) (negative : Bool) :
    double? negative s k = some (x.withSign negative) := by
  have hf : f.significand ≠ 0 := by
    intro hzero
    rw [magnitude, hzero, Nat.cast_zero, zero_mul] at hs
    exact hpos.ne (Nat.cast_injective hs)
  have hdigits : ofNat? s = some (f.withSign false) :=
    ofRatio?_of_eq_magnitude hf one_pos (by rw [hs, Nat.cast_one, div_one]) false
  rw [double?, hdigits]
  show (do
    let g ← scale? 3 (f.withSign false) k
    return g.withSign negative) = _
  rw [scale?_of_near (f := f.withSign false) 3 hf rfl hk (hs ▸ h)]
  rfl

end Double

namespace Json

namespace Reader

/-! ## Digits, a point, an exponent -/

/-- The text does not begin with a digit. -/
def Stops (s : List Char) : Prop := ∀ c ∈ s.head?, c.isDigit = false

theorem Bounded.stops {s : List Char} (h : Bounded s) : Stops s := by
  intro c hc
  have := h c hc
  simp only [isNumeric, Bool.or_eq_false_iff] at this
  exact this.1.1.1

theorem stops_cons {c : Char} {s : List Char} (h : c.isDigit = false) : Stops (c :: s) := by
  simpa [Stops] using h

/-- Digits only. -/
def AllDigits (ds : List Char) : Prop := ∀ c ∈ ds, c.isDigit

/-- The digits before a point: some, without leading zeros. -/
structure Whole (ds : List Char) : Prop where
  digits : AllDigits ds
  ne_nil : ds ≠ []
  lead : ∀ {more : List Char}, ds = '0' :: more → more = []

/-- What is read of a number behind its whole part, of which the digits are all taken. -/
def afterWhole (negative : Bool) (significand : Nat) (s : List Char) :
    Outcome (Number × List Char) :=
  match s with
  | '.' :: r => fractionPart negative significand 0 r
  | 'e' :: r | 'E' :: r => exponentPart negative significand 0 r
  | _ =>
      match integer? negative significand with
      | some n => .ok (n, s)
      | none => failAt .numberOutOfRange s

/-- What is read of it behind the digits after its point. -/
def afterFraction (negative : Bool) (significand : Nat) (exponent : Int) (s : List Char) :
    Outcome (Number × List Char) :=
  match s with
  | 'e' :: r | 'E' :: r => exponentPart negative significand exponent r
  | _ => doubleResult (double? negative significand exponent) s

section Digits

variable {ds s rest : List Char}

theorem Stops.takeWhile_append (hds : AllDigits ds) (hs : Stops s) :
    (ds ++ s).takeWhile Char.isDigit = ds := by
  rw [List.takeWhile_append_of_pos hds]
  cases s with
  | nil => simp
  | cons c s => simp [hs c rfl]

theorem Stops.dropWhile_append (hds : AllDigits ds) (hs : Stops s) :
    (ds ++ s).dropWhile Char.isDigit = s := by
  rw [List.dropWhile_append_of_pos hds]
  cases s with
  | nil => rfl
  | cons c s => simp [hs c rfl]

theorem toDigits_allDigits (n : Nat) : AllDigits (Nat.toDigits 10 n) :=
  fun _ => isDigit_of_mem_toDigits

section Number

variable {negative : Bool} (hwhole : Whole ds) (hfit : Nat.ofDigitChars 10 ds 0 < 2 ^ 64)

include hwhole hfit

theorem number_append (hs : Stops s) :
    number negative (ds ++ s) = afterWhole negative (Nat.ofDigitChars 10 ds 0) s := by
  unfold number
  simp only [hs.takeWhile_append hwhole.digits, hs.dropWhile_append hwhole.digits]
  split
  · exact absurd rfl hwhole.ne_nil
  · exact absurd (hwhole.lead rfl) (List.cons_ne_nil _ _)
  · simp only [appendDigits_eq hfit, Int.sub_self, if_true]
    rfl

theorem number_point (r : List Char) : number negative (ds ++ '.' :: r) =
    fractionPart negative (Nat.ofDigitChars 10 ds 0) 0 r :=
  number_append hwhole hfit (stops_cons rfl)

theorem number_exponent (r : List Char) : number negative (ds ++ 'e' :: r) =
    exponentPart negative (Nat.ofDigitChars 10 ds 0) 0 r :=
  number_append hwhole hfit (stops_cons rfl)

end Number

section Fraction

variable {negative : Bool} {significand : Nat} {exponent : Int} (hds : AllDigits ds) (hne : ds ≠ [])
  (hfit : Nat.ofDigitChars 10 ds significand < 2 ^ 64)

include hds hne hfit

theorem fractionPart_append (hs : Stops s) :
    fractionPart negative significand exponent (ds ++ s) =
      afterFraction negative (Nat.ofDigitChars 10 ds significand) (exponent - ds.length) s := by
  have hempty : ds.isEmpty = false := by simpa using hne
  unfold fractionPart
  simp only [hs.takeWhile_append hds, hs.dropWhile_append hds, appendDigits_eq hfit, hempty,
    Bool.false_eq_true, if_false]
  rfl

theorem fractionPart_bounded (hrest : Bounded rest) :
    fractionPart negative significand exponent (ds ++ rest) = doubleResult
      (double? negative (Nat.ofDigitChars 10 ds significand) (exponent - ds.length)) rest := by
  rw [fractionPart_append hds hne hfit hrest.stops]
  unfold afterFraction
  split
  · simp [bounded_cons, isNumeric] at hrest
  · simp [bounded_cons, isNumeric] at hrest
  · rfl

theorem fractionPart_exponent (r : List Char) :
    fractionPart negative significand exponent (ds ++ 'e' :: r) = exponentPart negative
      (Nat.ofDigitChars 10 ds significand) (exponent - ds.length) r :=
  fractionPart_append hds hne hfit (stops_cons rfl)

end Fraction

theorem exponentDigits_eq (hds : AllDigits ds) (hs : Stops s) {e : Nat}
    (hfit : Nat.ofDigitChars 10 ds e < 2 ^ 31) :
    exponentDigits e (ds ++ s) = (some (Nat.ofDigitChars 10 ds e), s) := by
  induction ds generalizing e with
  | nil =>
    cases s with
    | nil => rfl
    | cons c s => simp [exponentDigits, hs c rfl]
  | cons c ds ih =>
    have hnext : Nat.ofDigitChars 10 (c :: ds) e =
        Nat.ofDigitChars 10 ds (e * 10 + digitValue c) := by
      simp [Nat.ofDigitChars, digitValue, Nat.mul_comm]
    rw [hnext] at hfit ⊢
    have hsmall : e * 10 + digitValue c < 0x80000000 :=
      Nat.lt_of_le_of_lt (le_ofDigitChars ds _) hfit
    simp only [List.cons_append, exponentDigits, hds c List.mem_cons_self, hsmall, if_true]
    exact ih (fun c hc => hds c (List.mem_cons_of_mem _ hc)) hfit

/-- A signed exponent is added to the exponent so far. -/
theorem exponentPart_bounded (negative : Bool) (significand : Nat) (exponent : Int) {e : Int}
    (he : e.natAbs < 2 ^ 31) (hrest : Bounded rest) :
    exponentPart negative significand exponent
        ((if e < 0 then '-' else '+') :: (Nat.toDigits 10 e.natAbs ++ rest)) =
      doubleResult (double? negative significand (exponent + e)) rest := by
  have hread : exponentDigits 0 (Nat.toDigits 10 e.natAbs ++ rest) = (some e.natAbs, rest) := by
    have hvalue := @Nat.ofDigitChars_ten_toDigits e.natAbs
    rw [exponentDigits_eq (toDigits_allDigits _) hrest.stops (by rwa [hvalue]), hvalue]
  obtain ⟨c, cs, hcs⟩ := List.exists_cons_of_ne_nil (@Nat.toDigits_ne_nil e.natAbs 10)
  have hc : c.isDigit := isDigit_of_mem_toDigits (hcs ▸ List.mem_cons_self)
  rw [hcs, List.cons_append] at hread ⊢
  split
  · next hneg =>
    have hsum : exponent - e.natAbs = exponent + e := by omega
    simp only [exponentPart, hc, hread, if_true, hsum]
  · next hpos =>
    have hsum : exponent + e.natAbs = exponent + e := by omega
    simp only [exponentPart, hc, hread, if_true, Bool.false_eq_true, if_false, hsum]

end Digits

end Reader

end Json

namespace Double

/-- The digits of a double as a document has them, read as one natural, and the power of ten
    that they are multiplied by. A double that is written positionally has the zeros before its
    point among its digits, and one behind it. -/
def decimal (x : Double) : Nat × Int :=
  if x.isZero then
    (0, -1)
  else
    let (n, k) := x.shortest .even
    let e := k + (Nat.toDigits 10 n).length - 1
    if NumberStyle.json.positional e ∧ 0 ≤ k then (n * 10 ^ (k.toNat + 1), -1) else (n, k)

/-- What is read from the text of a double. -/
def reread (x : Double) : Option Double := double? x.negative x.decimal.1 x.decimal.2

end Double

namespace Json.Reader

open NumberStyle

section Text

variable {n : Nat} {k : Int} {negative : Bool} {rest : List Char}

theorem whole_zero : Whole ['0'] where
  digits := by simp [AllDigits]
  ne_nil := List.cons_ne_nil _ _
  lead h := (List.cons.inj h).2.symm

theorem Whole.append_of_pos {ds : List Char} (hn : 0 < n) (hds : AllDigits ds) :
    Whole (Nat.toDigits 10 n ++ ds) where
  digits c hc := (List.mem_append.1 hc).elim (toDigits_allDigits n c) (hds c)
  ne_nil := List.append_ne_nil_of_left_ne_nil Nat.toDigits_ne_nil _
  lead {more} h := by
    obtain ⟨c, cs, hcs⟩ := List.exists_cons_of_ne_nil (@Nat.toDigits_ne_nil n 10)
    rw [hcs, List.cons_append] at h
    obtain ⟨rfl, -⟩ := List.cons.inj h
    exact absurd (eq_zero_of_toDigits hcs) hn.ne'

theorem Whole.take {m : Nat} (hn : 0 < n) (hm : 0 < m) : Whole ((Nat.toDigits 10 n).take m) where
  digits c hc := toDigits_allDigits n c (List.mem_of_mem_take hc)
  ne_nil h := by
    rcases List.take_eq_nil_iff.1 h with rfl | h
    · exact lt_irrefl 0 hm
    · exact Nat.toDigits_ne_nil h
  lead {more} h := by
    obtain ⟨c, cs, hcs⟩ := List.exists_cons_of_ne_nil (@Nat.toDigits_ne_nil n 10)
    obtain ⟨m, rfl⟩ := Nat.exists_eq_add_one_of_ne_zero hm.ne'
    rw [hcs, List.take_succ_cons] at h
    obtain ⟨rfl, -⟩ := List.cons.inj h
    exact absurd (eq_zero_of_toDigits hcs) hn.ne'

theorem ofDigitChars_take_drop (n m : Nat) : Nat.ofDigitChars 10 ((Nat.toDigits 10 n).drop m)
    (Nat.ofDigitChars 10 ((Nat.toDigits 10 n).take m) 0) = n := by
  rw [← Nat.ofDigitChars_append, List.take_append_drop, Nat.ofDigitChars_ten_toDigits]

/-- A part of the digits is no more than all of them. -/
theorem ofDigitChars_take_le (n m : Nat) :
    Nat.ofDigitChars 10 ((Nat.toDigits 10 n).take m) 0 ≤ n := by
  conv_rhs => rw [← ofDigitChars_take_drop n m]
  exact le_ofDigitChars _ _

theorem ofDigitChars_zeros (j significand : Nat) :
    Nat.ofDigitChars 10 (List.replicate j '0') significand = significand * 10 ^ j := by
  induction j generalizing significand with
  | zero => simp [Nat.ofDigitChars]
  | succ j ih =>
    rw [List.replicate_succ, Nat.ofDigitChars_cons, ih]
    simp [pow_succ]
    ring

theorem allDigits_zeros (j : Nat) : AllDigits (List.replicate j '0') := by
  intro c hc
  rw [List.eq_of_mem_replicate hc]
  rfl

/-- Zeros behind the digits, and one behind the point. -/
theorem number_whole (hzero : n = 0 → k = 0) (hk : 0 ≤ k) (hfit : n * 10 ^ (k.toNat + 1) < 2 ^ 64)
    (hrest : Bounded rest) :
    number negative (json.positionalText (Nat.toDigits 10 n) k ++ rest) =
      doubleResult (double? negative (n * 10 ^ (k.toNat + 1)) (-1)) rest := by
  have hwhole : Whole (Nat.toDigits 10 n ++ List.replicate k.toNat '0') := by
    rcases Nat.eq_zero_or_pos n with rfl | hn
    · rw [hzero rfl]
      exact whole_zero
    · exact .append_of_pos hn (allDigits_zeros _)
  have hvalue : Nat.ofDigitChars 10 (Nat.toDigits 10 n ++ List.replicate k.toNat '0') 0 =
      n * 10 ^ k.toNat := by
    rw [Nat.ofDigitChars_append, Nat.ofDigitChars_ten_toDigits, ofDigitChars_zeros]
  have hlast : Nat.ofDigitChars 10 ['0'] (n * 10 ^ k.toNat) = n * 10 ^ (k.toNat + 1) :=
    (ofDigitChars_zeros 1 _).trans (by rw [Nat.mul_assoc, pow_one, ← Nat.pow_succ])
  have hle : n * 10 ^ k.toNat ≤ n * 10 ^ (k.toNat + 1) :=
    Nat.mul_le_mul_left n (Nat.pow_le_pow_right (by decide) (Nat.le_succ _))
  have htext : json.positionalText (Nat.toDigits 10 n) k ++ rest =
      (Nat.toDigits 10 n ++ List.replicate k.toNat '0') ++ '.' :: (['0'] ++ rest) := by
    rw [positionalText, if_pos hk]
    simp [json]
  rw [htext, number_point hwhole (by rw [hvalue]; omega), hvalue,
    fractionPart_bounded (whole_zero.digits) (whole_zero.ne_nil) (by rwa [hlast]) hrest, hlast]
  rfl

/-- A point inside the digits. -/
theorem number_inside (hn : 0 < n) (hfit : n < 2 ^ 64) (hk : k < 0)
    (hpoint : 0 < ((Nat.toDigits 10 n).length : Int) + k) (hrest : Bounded rest) :
    number negative (json.positionalText (Nat.toDigits 10 n) k ++ rest) =
      doubleResult (double? negative n k) rest := by
  obtain ⟨m, hm⟩ := Int.eq_ofNat_of_zero_le hpoint.le
  have htext : json.positionalText (Nat.toDigits 10 n) k ++ rest =
      (Nat.toDigits 10 n).take m ++ '.' :: ((Nat.toDigits 10 n).drop m ++ rest) := by
    rw [positionalText, if_neg (by omega)]
    simp only [hpoint, if_true]
    simp [hm]
  have hlength : ((Nat.toDigits 10 n).drop m).length = (-k).toNat := by
    rw [List.length_drop]
    omega
  have hne : (Nat.toDigits 10 n).drop m ≠ [] := by
    intro hnil
    rw [hnil, List.length_nil] at hlength
    omega
  have hdigits : AllDigits ((Nat.toDigits 10 n).drop m) :=
    fun c hc => toDigits_allDigits n c (List.mem_of_mem_drop hc)
  have hexponent : (0 : Int) - ((Nat.toDigits 10 n).drop m).length = k := by omega
  rw [htext, number_point (.take hn (by omega)) (by have := ofDigitChars_take_le n m; omega),
    fractionPart_bounded hdigits hne (by rwa [ofDigitChars_take_drop]) hrest,
    ofDigitChars_take_drop, hexponent]

/-- A point before the digits, and zeros between. -/
theorem number_before (hfit : n < 2 ^ 64)
    (hpoint : ((Nat.toDigits 10 n).length : Int) + k ≤ 0) (hrest : Bounded rest) :
    number negative (json.positionalText (Nat.toDigits 10 n) k ++ rest) =
      doubleResult (double? negative n k) rest := by
  obtain ⟨j, hj⟩ := Int.eq_ofNat_of_zero_le (Int.neg_nonneg.2 hpoint)
  let ds := List.replicate j '0' ++ Nat.toDigits 10 n
  have hpos := List.length_pos_of_ne_nil (@Nat.toDigits_ne_nil n 10)
  have htext : json.positionalText (Nat.toDigits 10 n) k ++ rest =
      ['0'] ++ '.' :: (ds ++ rest) := by
    rw [positionalText, if_neg (by omega)]
    simp only [not_lt.2 hpoint, if_false, hj]
    simp [ds]
  have hvalue : Nat.ofDigitChars 10 ds 0 = n := by
    rw [Nat.ofDigitChars_append, ofDigitChars_zeros, Nat.zero_mul, Nat.ofDigitChars_ten_toDigits]
  have hdigits : AllDigits ds :=
    fun c hc => (List.mem_append.1 hc).elim (allDigits_zeros j c) (toDigits_allDigits n c)
  have hne : ds ≠ [] := List.append_ne_nil_of_right_ne_nil _ Nat.toDigits_ne_nil
  have hexponent : (0 : Int) - ds.length = k := by
    simp only [ds, List.length_append, List.length_replicate]
    omega
  have hlead : Nat.ofDigitChars 10 ['0'] 0 = 0 := rfl
  rw [htext, number_point whole_zero (by decide), hlead,
    fractionPart_bounded hdigits hne (by rwa [hvalue]) hrest, hvalue, hexponent]

/-- One digit, the others behind a point if there are any, and an exponent. -/
theorem number_exponentText (hn : 0 < n) (hfit : n < 2 ^ 64) {e : Int}
    (he : e = k + (Nat.toDigits 10 n).length - 1) (hsmall : e.natAbs < 2 ^ 31)
    (hrest : Bounded rest) :
    number negative (exponentText (Nat.toDigits 10 n) e ++ rest) =
      doubleResult (double? negative n k) rest := by
  have hwhole : Whole ((Nat.toDigits 10 n).take 1) := .take hn one_pos
  have htake : Nat.ofDigitChars 10 ((Nat.toDigits 10 n).take 1) 0 < 2 ^ 64 :=
    Nat.lt_of_le_of_lt (ofDigitChars_take_le n 1) hfit
  have hvalue := ofDigitChars_take_drop n 1
  have hpos := List.length_pos_of_ne_nil (@Nat.toDigits_ne_nil n 10)
  have hlength : ((Nat.toDigits 10 n).drop 1).length = (Nat.toDigits 10 n).length - 1 :=
    List.length_drop
  have hdigits : AllDigits ((Nat.toDigits 10 n).drop 1) :=
    fun c hc => toDigits_allDigits n c (List.mem_of_mem_drop hc)
  rw [exponentText]
  by_cases hone : (Nat.toDigits 10 n).length ≤ 1
  · have hnil : (Nat.toDigits 10 n).drop 1 = [] := List.drop_eq_nil_of_le hone
    rw [hnil] at hvalue
    have hvalue : Nat.ofDigitChars 10 ((Nat.toDigits 10 n).take 1) 0 = n := hvalue
    have hexponent : 0 + e = k := by omega
    simp only [hone, if_true, List.append_assoc, List.nil_append, List.cons_append]
    rw [number_exponent hwhole htake, exponentPart_bounded negative _ _ hsmall hrest, hvalue,
      hexponent]
  · have hne : (Nat.toDigits 10 n).drop 1 ≠ [] := by
      intro hnil
      rw [hnil, List.length_nil] at hlength
      omega
    have hexponent : 0 - (((Nat.toDigits 10 n).drop 1).length : Int) + e = k := by omega
    simp only [hone, if_false, List.append_assoc, List.cons_append]
    rw [number_point hwhole htake, fractionPart_exponent hdigits hne (by rwa [hvalue]),
      exponentPart_bounded negative _ _ hsmall hrest, hvalue, hexponent]

/-- What is written positionally has seventeen digits before its point at most, and one behind
    it. -/
theorem whole_lt {j : Nat} (h : (Nat.toDigits 10 n).length + j ≤ 16) :
    n * 10 ^ (j + 1) < 2 ^ 64 := by
  have hpos := List.length_pos_of_ne_nil (@Nat.toDigits_ne_nil n 10)
  have hn : n < 10 ^ (Nat.toDigits 10 n).length :=
    (Nat.length_toDigits_le_iff (by decide) hpos).1 (le_refl _)
  calc n * 10 ^ (j + 1)
      < 10 ^ (Nat.toDigits 10 n).length * 10 ^ (j + 1) :=
        Nat.mul_lt_mul_of_pos_right hn (Nat.pow_pos (by decide))
    _ = 10 ^ ((Nat.toDigits 10 n).length + (j + 1)) := (Nat.pow_add _ _ _).symm
    _ ≤ 10 ^ 17 := Nat.pow_le_pow_right (by decide) (by omega)
    _ < 2 ^ 64 := by decide

end Text

/-- What is read from the text of a magnitude. -/
theorem number_magnitude (x : Double) (negative : Bool) {rest : List Char} (hrest : Bounded rest) :
    number negative (json.magnitude x ++ rest) =
      doubleResult (double? negative x.decimal.1 x.decimal.2) rest := by
  by_cases hx : x.isZero
  · simp only [magnitude, Double.decimal, hx, if_true]
    exact number_whole (n := 0) (fun _ => rfl) (le_refl 0) (by decide) hrest
  · have hsignificand : x.significand ≠ 0 := by simpa [Double.isZero] using hx
    obtain ⟨n, k, hshortest⟩ : ∃ n k, x.shortest .even = (n, k) := ⟨_, _, rfl⟩
    have hpos := Double.shortest_pos hsignificand hshortest
    have hlt := Double.shortest_lt hsignificand hshortest
    obtain ⟨hleast, hgreatest⟩ := Double.shortest_exponent hsignificand hshortest
    have hlength : (Nat.toDigits 10 n).length ≤ 20 :=
      (Nat.length_toDigits_le_iff (by decide) (by decide)).2 (by omega)
    have htie : json.tie = .even := rfl
    simp only [magnitude, Double.decimal, hx, htie, hshortest, if_false, Bool.false_eq_true]
    by_cases hpositional : json.positional (k + (Nat.toDigits 10 n).length - 1)
    · rw [if_pos hpositional]
      by_cases hk : 0 ≤ k
      · rw [if_pos ⟨hpositional, hk⟩]
        refine number_whole (fun hzero => absurd hzero hpos.ne') hk ?_ hrest
        exact whole_lt (by
          have := (decide_eq_true_iff.1 hpositional).2
          omega)
      · rw [if_neg fun h => hk h.2]
        by_cases hpoint : 0 < ((Nat.toDigits 10 n).length : Int) + k
        · exact number_inside hpos hlt (by omega) hpoint hrest
        · exact number_before hlt (by omega) hrest
    · rw [if_neg hpositional, if_neg fun h => hpositional h.1]
      exact number_exponentText hpos hlt rfl (by omega) hrest

/-- The text of digits begins with a digit, wherever their point is. -/
theorem positionalText_starts {c : Char} (hc : c.isDigit) (cs : List Char) (k : Int) :
    ∃ c' t, json.positionalText (c :: cs) k = c' :: t ∧ c'.isDigit := by
  unfold positionalText
  extract_lets point
  split
  · exact ⟨c, _, rfl, hc⟩
  · split
    · next hpoint =>
      obtain ⟨m, hm⟩ := Int.eq_succ_of_zero_lt hpoint
      rw [hm]
      exact ⟨c, _, rfl, hc⟩
    · exact ⟨'0', _, rfl, rfl⟩

theorem magnitude_starts (x : Double) : ∃ c t, json.magnitude x = c :: t ∧ c.isDigit := by
  unfold magnitude
  split
  · exact positionalText_starts rfl [] 0
  · generalize x.shortest json.tie = decimal
    obtain ⟨n, k⟩ := decimal
    obtain ⟨c, cs, hcs⟩ := List.exists_cons_of_ne_nil (@Nat.toDigits_ne_nil n 10)
    have hc : c.isDigit := isDigit_of_mem_toDigits (hcs ▸ List.mem_cons_self)
    dsimp only
    rw [hcs]
    split
    · exact positionalText_starts hc cs _
    · exact ⟨c, _, rfl, hc⟩

/-- The text of a double is read with its sign. -/
theorem scalar_write (x : Double) {rest : List Char} (hrest : Bounded rest) :
    scalar (json.write x ++ rest) = (do
      let (n, r) ← doubleResult x.reread rest
      return (.number n, r)) := by
  have hread := number_magnitude x x.negative hrest
  rw [write]
  cases hsign : x.negative with
  | true =>
    rw [hsign] at hread
    show (do
      let (n, r) ← number true (json.magnitude x ++ rest)
      return (Scalar.number n, r)) = _
    rw [hread, Double.reread, hsign]
  | false =>
    rw [hsign] at hread
    obtain ⟨c, t, ht, hc⟩ := magnitude_starts x
    rw [if_neg Bool.false_ne_true, ht, List.cons_append, scalar_of_isDigit hc, ← List.cons_append,
      ← ht, hread, Double.reread, hsign]

end Json.Reader

/-! ## Doubles that are read back -/

namespace Double

/-- Reading the text of a double rounds only once: its digits are themselves a double, and so is
    the power of ten. -/
def RoundsOnce (x : Double) : Prop :=
  (∃ f : Double, f.magnitude = x.decimal.1) ∧ x.decimal.2.natAbs ≤ 22

theorem eq_zero_of_isZero {x : Double} (hx : x.isZero) : x = zero x.negative := by
  have hsignificand : x.significand = 0 := by simpa [isZero] using hx
  have hexponent : x.exponent = -1074 := by
    rcases x.canonical.2.2.2 with hge | heq
    · rw [hsignificand] at hge
      exact absurd hge (by decide)
    · exact heq
  obtain ⟨negative, significand, exponent, hcanonical⟩ := x
  simp only at hsignificand hexponent
  subst hsignificand hexponent
  rfl

/-- The digits and the power of ten are those of the shortest decimal. -/
theorem decimal_spec {x : Double} (hx : x.significand ≠ 0) :
    0 < x.decimal.1 ∧ x.Near (x.decimal.1 * 10 ^ x.decimal.2) := by
  obtain ⟨n, k, hshortest⟩ : ∃ n k, x.shortest .even = (n, k) := ⟨_, _, rfl⟩
  have hpos := shortest_pos hx hshortest
  have hnear := near_shortest hx hshortest
  have hzero : x.isZero = false := by simpa [isZero] using hx
  rw [decimal, hzero, if_neg Bool.false_ne_true, hshortest]
  dsimp only
  split
  · next hwhole =>
    obtain ⟨j, hj⟩ := Int.eq_ofNat_of_zero_le hwhole.2
    refine ⟨Nat.mul_pos hpos (Nat.pow_pos (by decide)), ?_⟩
    have hvalue : ((n * 10 ^ (k.toNat + 1) : Nat) : ℚ) * 10 ^ (-1 : ℤ) = n * 10 ^ k := by
      rw [hj]
      push_cast
      rw [zpow_natCast, pow_succ, Int.toNat_natCast]
      field_simp
    rwa [hvalue]
  · exact ⟨hpos, hnear⟩

/-- Digits of no more than 53 bits, so any fifteen of them, are a double. -/
theorem roundsOnce_of_lt {x : Double} (hlt : x.decimal.1 < 2 ^ 53) (hk : x.decimal.2.natAbs ≤ 22) :
    x.RoundsOnce := by
  refine ⟨?_, hk⟩
  rcases Nat.eq_zero_or_pos x.decimal.1 with hzero | hpos
  · exact ⟨zero false, by simp [hzero, zero, magnitude]⟩
  · obtain ⟨f, -, -, hf⟩ := exists_magnitude 0 hpos hlt (by omega)
    exact ⟨f, by simpa using hf⟩

/-- It comes back as it is. -/
theorem RoundsOnce.reread {x : Double} (h : x.RoundsOnce) : x.reread = some x := by
  by_cases hx : x.isZero
  · rw [eq_zero_of_isZero hx]
    cases x.negative <;> decide +kernel
  · have hsignificand : x.significand ≠ 0 := by simpa [isZero] using hx
    obtain ⟨⟨f, hf⟩, hk⟩ := h
    obtain ⟨hpos, hnear⟩ := decimal_spec hsignificand
    rw [Double.reread, double?_of_near hf hpos hk hnear, withSign_self]

end Double

end PartyLine
