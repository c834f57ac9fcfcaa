import Mathlib.Algebra.Order.Field.Power
import Mathlib.Algebra.Order.Field.Rat
import Mathlib.Tactic.FieldSimp
import Mathlib.Tactic.Linarith
import Mathlib.Tactic.Positivity
import Mathlib.Tactic.Ring
import PartyLine.Double.Decimal

/-!
# Rounding to doubles

The rationals that round to a double are those of its interval: half a gap to either side, with
the ends where the significand is even. So a double is what its own magnitude rounds to, and
whatever lies in its interval.

A double's own ratio is in its interval, and so is every decimal close enough; what is proved here
is that rounding a ratio ends up at the double in whose interval it lies. The exponent at which
a ratio is rounded is the one that leaves it 53 bits, and there is only one such exponent; then
rounding to the nearest natural is half a gap, and the tie goes to the even one. The one case that
is different is a ratio just below a power of two, which is rounded up into the next exponent.

* `Double.magnitude`: what a double is worth but for its sign;
* `Double.IsUnit`: the exponent at which a rational is rounded, of which there is one;
* `Double.roundEven_eq`: the natural that a ratio is rounded to;
* `Double.Near`: the rationals of a double's interval;
* `Double.ofRatio?_of_near`: they round to the double;
* `Double.exists_magnitude`: a whole number of 53 bits and some zeros is a double.
-/

namespace PartyLine

namespace Double

/-- A power with an exponent of either sign as a ratio of naturals. -/
theorem zpow_eq_div (b : ℚ) (e : ℤ) : b ^ e = b ^ e.toNat / b ^ (-e).toNat := by
  rcases le_total 0 e with h | h
  · obtain ⟨n, rfl⟩ := Int.eq_ofNat_of_zero_le h
    simp
  · obtain ⟨n, hn⟩ := Int.eq_ofNat_of_zero_le (Int.neg_nonneg.2 h)
    obtain rfl : e = -n := by omega
    simp

theorem two_zpow_pos (e : ℤ) : (0 : ℚ) < 2 ^ e := zpow_pos two_pos e

theorem two_zpow_add (n : Nat) (e : ℤ) : (2 : ℚ) ^ (e + n) = 2 ^ n * 2 ^ e := by
  rw [zpow_add₀ two_ne_zero, zpow_natCast, mul_comm]

/-- A unit in halves. -/
theorem two_zpow_sub_one (e : ℤ) : (2 : ℚ) ^ e = 2 * 2 ^ (e - 1) := by
  rw [← zpow_one_add₀ two_ne_zero]
  congr 1
  ring

/-- Half a unit in quarters. -/
theorem two_zpow_sub_two (e : ℤ) : (2 : ℚ) ^ (e - 1) = 2 * 2 ^ (e - 2) := by
  rw [two_zpow_sub_one, sub_sub, one_add_one_eq_two]

/-- A ratio measured in units of a power of two. -/
theorem ratio_scaled (num den : Nat) (e : ℤ) :
    ((num * Nat.pow 2 (-e).toNat : Nat) : ℚ) / (den * Nat.pow 2 e.toNat : Nat) =
      num / den / 2 ^ e := by
  rw [zpow_eq_div 2 e]
  simp only [Nat.pow_eq]
  push_cast
  field_simp

/-- What a double is worth but for its sign. -/
def magnitude (x : Double) : ℚ := x.significand * 2 ^ x.exponent

theorem magnitude_eq_div (x : Double) : x.magnitude = x.num / x.den := by
  rw [magnitude, zpow_eq_div, num, den]
  simp only [Nat.pow_eq]
  push_cast
  ring

theorem den_pos (x : Double) : 0 < x.den := Nat.pow_pos (by decide)

theorem num_pos {x : Double} (hx : x.significand ≠ 0) : 0 < x.num :=
  Nat.mul_pos (Nat.pos_of_ne_zero hx) (Nat.pow_pos (by decide))

@[simp] theorem withSign_self (x : Double) : x.withSign x.negative = x := rfl

/-! ## The unit -/

/-- The exponent at which a rational is rounded: it leaves 53 bits, or fewer at the least
    exponent. -/
structure IsUnit (q : ℚ) (e : ℤ) : Prop where
  lt : q < 2 ^ 53 * 2 ^ e
  least : -1074 ≤ e
  le : 2 ^ 52 * 2 ^ e ≤ q ∨ e = -1074

section Unit

variable {q : ℚ} {e e' : ℤ} {num den : Nat}

theorem IsUnit.le_of_isUnit (h : IsUnit q e) (h' : IsUnit q e') : e' ≤ e := by
  rcases h'.le with hle | rfl
  · by_contra hlt
    have hpow : (2 : ℚ) ^ (e + 1) ≤ 2 ^ e' := zpow_le_zpow_right₀ one_le_two (by omega)
    rw [zpow_add_one₀ two_ne_zero] at hpow
    linarith [h.lt]
  · exact h.least

theorem IsUnit.unique (h : IsUnit q e) (h' : IsUnit q e') : e = e' :=
  le_antisymm (h'.le_of_isUnit h) (h.le_of_isUnit h')

theorem lt_scaled_iff (hden : 0 < den) (c : Nat) (e : ℤ) :
    num * Nat.pow 2 (-e).toNat < c * (den * Nat.pow 2 e.toNat) ↔
      (num : ℚ) / den < c * 2 ^ e := by
  have hscaled : (0 : ℚ) < (den * Nat.pow 2 e.toNat : Nat) :=
    Nat.cast_pos.2 (Nat.mul_pos hden (Nat.pow_pos (by decide)))
  rw [← div_lt_iff₀ (two_zpow_pos e), ← ratio_scaled, div_lt_iff₀ hscaled]
  exact_mod_cast Iff.rfl

theorem two_pow_log2_le (hnum : 0 < num) : (2 : ℚ) ^ (num.log2 : ℤ) ≤ num := by
  rw [zpow_natCast]
  exact_mod_cast Nat.log2_self_le hnum.ne'

theorem lt_two_pow_log2 (num : Nat) : (num : ℚ) < 2 ^ (num.log2 + 1 : ℤ) := by
  rw [← Nat.cast_add_one, zpow_natCast]
  exact_mod_cast Nat.lt_log2_self

/-- The lengths of a ratio's terms say how long it is, but for one bit. -/
theorem ratio_bounds (hnum : 0 < num) (hden : 0 < den) :
    (2 : ℚ) ^ (num.log2 - den.log2 - 1 : ℤ) ≤ num / den ∧
      (num : ℚ) / den < 2 ^ (num.log2 - den.log2 + 1 : ℤ) := by
  have hden' : (0 : ℚ) < den := Nat.cast_pos.2 hden
  rw [le_div_iff₀ hden', div_lt_iff₀ hden']
  constructor
  · calc (2 : ℚ) ^ (num.log2 - den.log2 - 1 : ℤ) * den
        ≤ 2 ^ (num.log2 - den.log2 - 1 : ℤ) * 2 ^ (den.log2 + 1 : ℤ) := by
          gcongr
          exact (lt_two_pow_log2 den).le
      _ = 2 ^ (num.log2 : ℤ) := by
          rw [← zpow_add₀ two_ne_zero]
          congr 1
          ring
      _ ≤ num := two_pow_log2_le hnum
  · calc (num : ℚ) < 2 ^ (num.log2 + 1 : ℤ) := lt_two_pow_log2 num
      _ = 2 ^ (num.log2 - den.log2 + 1 : ℤ) * 2 ^ (den.log2 : ℤ) := by
          rw [← zpow_add₀ two_ne_zero]
          congr 1
          ring
      _ ≤ 2 ^ (num.log2 - den.log2 + 1 : ℤ) * den := by
          gcongr
          exact two_pow_log2_le hden

theorem isUnit_unitExponent (hnum : 0 < num) (hden : 0 < den) :
    IsUnit (num / den) (unitExponent num den) := by
  obtain ⟨hlow, hhigh⟩ := ratio_bounds hnum hden
  let guess : ℤ := num.log2 - den.log2 - 53
  have hlow : 2 ^ 52 * 2 ^ guess ≤ (num : ℚ) / den := by
    rw [← two_zpow_add]
    convert hlow using 2
    simp only [guess]
    push_cast
    ring
  have hhigh : (num : ℚ) / den < 2 ^ 54 * 2 ^ guess := by
    rw [← two_zpow_add]
    convert hhigh using 2
    simp only [guess]
    push_cast
    ring
  unfold unitExponent
  extract_lets e
  have hguess : (2 : ℚ) ^ guess ≤ 2 ^ e := zpow_le_zpow_right₀ one_le_two (le_max_right _ _)
  have hiff : num * Nat.pow 2 (-e).toNat < 0x20000000000000 * (den * Nat.pow 2 e.toNat) ↔
      (num : ℚ) / den < (0x20000000000000 : Nat) * 2 ^ e := lt_scaled_iff hden _ e
  -- the guess is right, or one too small
  split
  · next hlt =>
    refine ⟨by exact_mod_cast hiff.1 hlt, le_max_left _ _, ?_⟩
    rcases le_total (-1074) guess with hle | hle
    · exact .inl (by rwa [show e = guess from max_eq_right hle])
    · exact .inr (max_eq_left hle)
  · next hge =>
    have hge : 2 ^ 53 * 2 ^ e ≤ (num : ℚ) / den := by
      rw [hiff, not_lt] at hge
      exact_mod_cast hge
    have hleast : -1074 ≤ e := le_max_left _ _
    have hdouble : (2 : ℚ) ^ (e + 1) = 2 * 2 ^ e := by simpa using two_zpow_add 1 e
    refine ⟨?_, by omega, .inl ?_⟩
    · rw [hdouble]
      linarith
    · rw [hdouble]
      linarith

end Unit

/-! ## The nearest natural -/

/-- What is within half of a natural is rounded to it, from the ends only if it is even. -/
theorem roundEven_eq {num den m : Nat} (hden : 0 < den) (hlow : 2 * (m * den) ≤ 2 * num + den)
    (hhigh : 2 * num ≤ 2 * (m * den) + den)
    (htie : 2 * (m * den) = 2 * num + den ∨ 2 * num = 2 * (m * den) + den → m % 2 = 0) :
    roundEven num den = m := by
  have hsplit := Nat.div_add_mod num den
  have hmod := Nat.mod_lt num hden
  unfold roundEven
  generalize num / den = quotient at *
  generalize num % den = rest at *
  have hle : quotient ≤ m := by
    by_contra hlt
    have := Nat.mul_le_mul_right den (show m + 1 ≤ quotient by omega)
    rw [Nat.add_mul] at this
    rw [Nat.mul_comm den] at hsplit
    omega
  have hge : m ≤ quotient + 1 := by
    by_contra hlt
    have := Nat.mul_le_mul_right den (show quotient + 2 ≤ m by omega)
    rw [Nat.add_mul] at this
    rw [Nat.mul_comm den] at hsplit
    omega
  rw [Nat.mul_comm den] at hsplit
  rcases Nat.lt_or_ge quotient m with hlt | hge'
  · obtain rfl : m = quotient + 1 := by omega
    rw [Nat.add_mul] at hlow hhigh htie
    rw [if_neg]
    rintro (hrest | ⟨hrest, heven⟩)
    · omega
    · have := htie (.inl (by omega))
      omega
  · obtain rfl : m = quotient := by omega
    rw [if_pos]
    by_cases hrest : 2 * rest = den
    · exact .inr ⟨hrest, htie (.inr (by omega))⟩
    · exact .inl (by omega)

/-- A ratio is rounded to a number of units, so many half units, if it is within one half unit
    of them. -/
theorem roundAt_eq {num den m : Nat} {e : ℤ} (hden : 0 < den)
    (hlow : (2 * m - 1) * 2 ^ (e - 1) ≤ (num : ℚ) / den)
    (hhigh : (num : ℚ) / den ≤ (2 * m + 1) * 2 ^ (e - 1))
    (htie : (num : ℚ) / den = (2 * m - 1) * 2 ^ (e - 1) ∨
      (num : ℚ) / den = (2 * m + 1) * 2 ^ (e - 1) → m % 2 = 0) :
    roundAt num den e = m := by
  have hhalf := two_zpow_pos (e - 1)
  have hscaled : 0 < den * Nat.pow 2 e.toNat := Nat.mul_pos hden (Nat.pow_pos (by decide))
  have hratio := ratio_scaled num den e
  rw [roundAt]
  generalize den * Nat.pow 2 e.toNat = unit at hscaled hratio ⊢
  generalize num * Nat.pow 2 (-e).toNat = units at hratio ⊢
  have hunit : (0 : ℚ) < unit := Nat.cast_pos.2 hscaled
  -- in half units the ratio is twice the quotient of these naturals
  have hq : (num : ℚ) / den = 2 * units / unit * 2 ^ (e - 1) := by
    rw [two_zpow_sub_one, div_eq_div_iff hunit.ne' (by positivity)] at hratio
    rw [div_mul_eq_mul_div, eq_div_iff hunit.ne', ← hratio]
    ring
  rw [hq, mul_le_mul_iff_left₀ hhalf, le_div_iff₀ hunit] at hlow
  rw [hq, mul_le_mul_iff_left₀ hhalf, div_le_iff₀ hunit] at hhigh
  rw [hq, mul_left_inj' hhalf.ne', mul_left_inj' hhalf.ne', div_eq_iff hunit.ne',
    div_eq_iff hunit.ne'] at htie
  refine roundEven_eq hscaled ?_ ?_ fun h => htie (h.imp (fun h => ?_) fun h => ?_)
  · have : (2 : ℚ) * (m * unit) ≤ 2 * units + unit := by linarith
    exact_mod_cast this
  · have : (2 : ℚ) * units ≤ 2 * (m * unit) + unit := by linarith
    exact_mod_cast this
  · have : (2 : ℚ) * (m * unit) = 2 * units + unit := by exact_mod_cast h
    linarith
  · have : (2 : ℚ) * units = 2 * (m * unit) + unit := by exact_mod_cast h
    linarith

/-! ## The nearest double -/

theorem ofFields?_eq (x : Double) (negative : Bool) :
    ofFields? negative x.significand x.exponent = some (x.withSign negative) :=
  dif_pos x.canonical

theorem ofRatio?_eq {num den : Nat} {e : ℤ} (negative : Bool) (hnum : 0 < num) (hden : 0 < den)
    (he : IsUnit (num / den) e) :
    ofRatio? negative num den =
      if roundAt num den e = 0x20000000000000 then ofFields? negative 0x10000000000000 (e + 1)
      else ofFields? negative (roundAt num den e) e := by
  rw [ofRatio?, if_neg hnum.ne', (isUnit_unitExponent hnum hden).unique he]

/-- The rationals of a double's interval, in which its ends are if its significand is even. -/
def Near (x : Double) (q : ℚ) : Prop :=
  let i := x.interval
  let quarter := (2 : ℚ) ^ (x.exponent - 2)
  if i.closed then i.low * quarter ≤ q ∧ q ≤ i.high * quarter
  else i.low * quarter < q ∧ q < i.high * quarter

section Near

variable {x : Double} {q : ℚ}

theorem closed_iff : x.interval.closed ↔ x.significand % 2 = 0 := beq_iff_eq

theorem Near.low_le (h : x.Near q) : x.interval.low * 2 ^ (x.exponent - 2) ≤ q := by
  rw [Near] at h
  split at h
  · exact h.1
  · exact h.1.le

theorem Near.le_high (h : x.Near q) : q ≤ x.interval.high * 2 ^ (x.exponent - 2) := by
  rw [Near] at h
  split at h
  · exact h.2
  · exact h.2.le

/-- Only of an even significand an end is near. -/
theorem Near.even (h : x.Near q) (hend : q = x.interval.low * 2 ^ (x.exponent - 2) ∨
    q = x.interval.high * 2 ^ (x.exponent - 2)) : x.significand % 2 = 0 := by
  rw [← closed_iff]
  by_contra hopen
  rw [Near, if_neg hopen] at h
  rcases hend with rfl | rfl
  · exact lt_irrefl _ h.1
  · exact lt_irrefl _ h.2

theorem high_eq (x : Double) : (x.interval.high : ℚ) * 2 ^ (x.exponent - 2) =
    (2 * x.significand + 1) * 2 ^ (x.exponent - 1) := by
  rw [two_zpow_sub_two, interval]
  push_cast
  ring

/-- The interval begins one or two of its units below the double. -/
theorem low_eq_or (x : Double) : x.interval.low = 4 * x.significand - 1 ∨
    x.interval.low = 4 * x.significand - 2 := by
  rw [interval]
  dsimp only
  split
  · exact .inl rfl
  · exact .inr rfl

theorem le_low (x : Double) : (2 * x.significand - 1) * 2 ^ (x.exponent - 1) ≤
    (x.interval.low : ℚ) * 2 ^ (x.exponent - 2) := by
  have hlow : 4 * x.significand ≤ x.interval.low + 2 := by
    have := x.low_eq_or
    omega
  have hlow : (4 : ℚ) * x.significand ≤ x.interval.low + 2 := by exact_mod_cast hlow
  rw [two_zpow_sub_two, ← mul_assoc]
  exact mul_le_mul_of_nonneg_right (by linarith) (two_zpow_pos _).le

theorem significand_le (x : Double) : (x.significand : ℚ) ≤ 2 ^ 53 - 1 := by
  have : x.significand + 1 ≤ 2 ^ 53 := x.canonical.1
  have : (x.significand : ℚ) + 1 ≤ 2 ^ 53 := by exact_mod_cast this
  linarith

/-- What is near a double and no less than the powers of two of its exponent is rounded in the
    unit of the double. -/
theorem Near.isUnit (h : x.Near q) (hq : 2 ^ 52 * 2 ^ x.exponent ≤ q ∨ x.exponent = -1074) :
    IsUnit q x.exponent := by
  refine ⟨?_, x.canonical.2.1, hq⟩
  have hle := h.le_high
  have hpos := two_zpow_pos (x.exponent - 1)
  rw [high_eq] at hle
  rw [two_zpow_sub_one]
  nlinarith [x.significand_le]

/-- What is near a double and less than these is near the least one of its exponent. -/
theorem Near.significand_eq (h : x.Near q) (hq : q < 2 ^ 52 * 2 ^ x.exponent)
    (he : x.exponent ≠ -1074) : x.significand = 0x10000000000000 := by
  have hge : 0x10000000000000 ≤ x.significand := x.canonical.2.2.2.resolve_right he
  by_contra hne
  have hgt : 2 ^ 52 + 1 ≤ x.significand := by omega
  have hgt : (2 : ℚ) ^ 52 + 1 ≤ x.significand := by exact_mod_cast hgt
  have hlow := (le_low x).trans h.low_le
  have hpos := two_zpow_pos (x.exponent - 1)
  rw [two_zpow_sub_one] at hq
  nlinarith

/-- The rationals of its interval round to a double. -/
theorem ofRatio?_of_near {num den : Nat} (hden : 0 < den) (hnum : 0 < num)
    (h : x.Near (num / den)) (negative : Bool) :
    ofRatio? negative num den = some (x.withSign negative) := by
  by_cases hq : 2 ^ 52 * 2 ^ x.exponent ≤ (num : ℚ) / den ∨ x.exponent = -1074
  · have hround : roundAt num den x.exponent = x.significand := by
      have hlow := h.low_le
      have hhigh := h.le_high
      have heven := h.even
      rw [high_eq] at hhigh heven
      refine roundAt_eq hden ((le_low x).trans hlow) hhigh fun htie => heven (htie.imp_left ?_)
      intro hlowest
      exact le_antisymm (hlowest.trans_le (le_low x)) hlow
    have hne : x.significand ≠ 0x20000000000000 := Nat.ne_of_lt x.canonical.1
    rw [ofRatio?_eq negative hnum hden (h.isUnit hq), hround, if_neg hne, ofFields?_eq]
  · -- the interval of a power of two begins in the binade below it
    obtain ⟨hq, he⟩ := not_or.1 hq
    rw [not_le] at hq
    have hm := h.significand_eq hq he
    have hlow : (2 ^ 54 - 1) * 2 ^ (x.exponent - 2) ≤ (num : ℚ) / den := by
      have := h.low_le
      rw [interval, if_pos ⟨hm, he⟩, hm] at this
      norm_num at this ⊢
      exact this
    have hquarter := two_zpow_sub_two x.exponent
    have hquarter' : x.exponent - 1 - 1 = x.exponent - 2 := by ring
    have hpos := two_zpow_pos (x.exponent - 2)
    rw [two_zpow_sub_one, hquarter] at hq
    have hunit : IsUnit ((num : ℚ) / den) (x.exponent - 1) := by
      refine ⟨?_, ?_, .inl ?_⟩
      · rw [hquarter]
        linarith
      · have := x.canonical.2.1
        omega
      · rw [hquarter]
        linarith
    have hround : roundAt num den (x.exponent - 1) = 0x20000000000000 := by
      refine roundAt_eq hden ?_ ?_ fun _ => rfl
      · rw [hquarter']
        norm_num at hlow ⊢
        exact hlow
      · rw [hquarter']
        norm_num at hq ⊢
        linarith
    have hx := ofFields?_eq x negative
    rw [hm] at hx
    rw [ofRatio?_eq negative hnum hden hunit, hround, if_pos rfl, sub_add_cancel, hx]

/-- A double is near itself. -/
theorem near_magnitude (hx : x.significand ≠ 0) : x.Near x.magnitude := by
  have hquarter : x.magnitude = x.interval.value * 2 ^ (x.exponent - 2) := by
    rw [magnitude, two_zpow_sub_one, two_zpow_sub_two, interval]
    push_cast
    ring
  have hlow : x.interval.low < 4 * x.significand := by
    have := x.low_eq_or
    omega
  have hhigh : x.interval.value < x.interval.high := Nat.lt_add_of_pos_right two_pos
  have hpos := two_zpow_pos (x.exponent - 2)
  have hlow' := mul_lt_mul_of_pos_right (Nat.cast_lt (α := ℚ).2 hlow) hpos
  have hhigh' := mul_lt_mul_of_pos_right (Nat.cast_lt (α := ℚ).2 hhigh) hpos
  rw [Near, hquarter]
  split
  · exact ⟨hlow'.le, hhigh'.le⟩
  · exact ⟨hlow', hhigh'⟩

theorem magnitude_pos (hx : x.significand ≠ 0) : 0 < x.magnitude :=
  mul_pos (Nat.cast_pos.2 (Nat.pos_of_ne_zero hx)) (two_zpow_pos _)

/-- A ratio that is worth as much as a double rounds to it. -/
theorem ofRatio?_of_eq_magnitude {num den : Nat} (hx : x.significand ≠ 0) (hden : 0 < den)
    (h : (num : ℚ) / den = x.magnitude) (negative : Bool) :
    ofRatio? negative num den = some (x.withSign negative) := by
  have hnum : 0 < num := by
    have hpos := magnitude_pos hx
    rw [← h] at hpos
    refine Nat.pos_of_ne_zero ?_
    rintro rfl
    simp at hpos
  exact ofRatio?_of_near hden hnum (h ▸ near_magnitude hx) negative

end Near

/-- A whole number of 53 bits, with some zeros behind them, is a double. -/
theorem exists_magnitude {m : Nat} (j : Nat) (hm : 0 < m) (hlt : m < 2 ^ 53) (hj : j ≤ 900) :
    ∃ x : Double, x.negative = false ∧ x.significand ≠ 0 ∧ x.magnitude = m * 2 ^ j := by
  -- the bits are moved up until there are 53 of them
  obtain ⟨shift, hshift⟩ : ∃ shift, m.log2 + shift = 52 :=
    ⟨52 - m.log2, by have := (Nat.log2_lt hm.ne').2 hlt; omega⟩
  have hlow : 2 ^ 52 ≤ m * 2 ^ shift := by
    rw [← hshift, Nat.pow_add]
    exact Nat.mul_le_mul_right _ (Nat.log2_self_le hm.ne')
  have hhigh : m * 2 ^ shift < 2 ^ 53 := by
    have h53 : 53 = m.log2 + 1 + shift := by omega
    rw [h53, Nat.pow_add]
    exact Nat.mul_lt_mul_of_pos_right Nat.lt_log2_self (Nat.pow_pos (by decide))
  refine ⟨⟨false, m * 2 ^ shift, j - shift, hhigh, by omega, by omega, .inl hlow⟩, rfl, ?_, ?_⟩
  · exact (Nat.mul_pos hm (Nat.pow_pos (by decide))).ne'
  · rw [magnitude]
    push_cast
    rw [zpow_sub₀ two_ne_zero, zpow_natCast, zpow_natCast]
    field_simp

end Double

end PartyLine
