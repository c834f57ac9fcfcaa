import PartyLine.Proofs.Double

/-!
# Shortest decimals

The digits that a double is written with make a decimal that rounds to it, and they fit 64 bits.
The scan over the decimal grids ends on one with a point in the double's interval: it begins
above the leading digit, and the last grid it tries is finer than the interval.

* `Double.contains_iff`, `Double.near_of_gridPoint`: the points of a grid are compared with the
  interval in whole numbers;
* `Double.le_of_gridPoint_eq_none`: a grid without a point is coarser than the interval;
* `Double.leading_table`: where the scan begins and how fine the last grid is, for every exponent;
* `Double.near_shortest`, `Double.shortest_lt`, `Double.shortest_pos`: the decimal is near the
  double, and its digits are not zero and fit 64 bits.
-/

namespace PartyLine

namespace Double

theorem ten_zpow_pos (k : ℤ) : (0 : ℚ) < 10 ^ k := zpow_pos (by norm_num) k

section Grid

variable {x : Double} {k : ℤ} {n : Nat} {tie : Tie}

/-- How many units of a decimal grid there are in so many units of a double's interval. -/
def unitScale (x : Double) (k : ℤ) : Nat := Nat.pow 2 (x.exponent - 2).toNat * Nat.pow 10 (-k).toNat

/-- How many of them a unit of the grid has. -/
def gridScale (x : Double) (k : ℤ) : Nat := Nat.pow 2 (-(x.exponent - 2)).toNat * Nat.pow 10 k.toNat

theorem unitScale_pos (x : Double) (k : ℤ) : 0 < x.unitScale k :=
  Nat.mul_pos (Nat.pow_pos (by decide)) (Nat.pow_pos (by decide))

theorem gridScale_div_unitScale (x : Double) (k : ℤ) :
    (x.gridScale k : ℚ) / x.unitScale k = 10 ^ k / 2 ^ (x.exponent - 2) := by
  rw [zpow_eq_div 10 k, zpow_eq_div 2 (x.exponent - 2), gridScale, unitScale]
  simp only [Nat.pow_eq]
  push_cast
  field_simp

theorem contains_iff (x : Double) (k : ℤ) (n : Nat) :
    x.interval.contains (n * x.gridScale k) (x.unitScale k) ↔ x.Near (n * 10 ^ k) := by
  have hpos := two_zpow_pos (x.exponent - 2)
  have hscale : (0 : ℚ) < x.unitScale k := Nat.cast_pos.2 (unitScale_pos x k)
  -- both sides are compared as numbers of the interval's units
  have hpoint : (n : ℚ) * 10 ^ k =
      (n * x.gridScale k : Nat) / x.unitScale k * 2 ^ (x.exponent - 2) := by
    push_cast
    rw [mul_div_assoc, gridScale_div_unitScale]
    field_simp
  rw [Near, Interval.contains, hpoint]
  split
  · simp only [decide_eq_true_eq, mul_le_mul_iff_left₀ hpos, le_div_iff₀ hscale, div_le_iff₀ hscale]
    exact_mod_cast Iff.rfl
  · simp only [decide_eq_true_eq, mul_lt_mul_iff_left₀ hpos, lt_div_iff₀ hscale, div_lt_iff₀ hscale]
    exact_mod_cast Iff.rfl

/-- A point that is found is near. -/
theorem near_of_gridPoint (h : x.gridPoint tie k = some n) : x.Near (n * 10 ^ k) := by
  rw [← contains_iff]
  unfold gridPoint at h
  extract_lets i unit scale grid below gapBelow gapAbove inside at h
  show inside n = true
  split at h
  · next hbelow habove =>
    have : n = below ∨ n = below + 1 := by
      grind
    rcases this with rfl | rfl
    · exact hbelow
    · exact habove
  · next hbelow _ =>
    obtain rfl := Option.some.inj h
    exact hbelow
  · next _ habove =>
    obtain rfl := Option.some.inj h
    exact habove
  · cases h

theorem low_add_three_le (hx : x.significand ≠ 0) : x.interval.low + 3 ≤ x.interval.high := by
  have hlow := x.low_eq_or
  show x.interval.low + 3 ≤ 4 * x.significand + 2
  omega

/-- A point that is no more than the double, and not of its interval, lies before the interval. -/
theorem le_low_of_not_contains {num den : Nat} (hden : 0 < den)
    (h : x.interval.contains num den = false) (hle : num ≤ x.interval.value * den) :
    num ≤ x.interval.low * den := by
  have hhigh : x.interval.value * den < x.interval.high * den :=
    Nat.mul_lt_mul_of_pos_right (Nat.lt_add_of_pos_right two_pos) hden
  rw [Interval.contains] at h
  split at h <;> simp only [decide_eq_false_iff_not] at h <;> omega

/-- One that is more than the double, and not of its interval, lies behind it. -/
theorem high_le_of_not_contains {num den : Nat}
    (h : x.interval.contains num den = false) (hlt : x.interval.value * den < num) :
    x.interval.high * den ≤ num := by
  have hlow : x.interval.low * den ≤ x.interval.value * den :=
    Nat.mul_le_mul_right den (Nat.sub_le _ _)
  rw [Interval.contains] at h
  split at h <;> simp only [decide_eq_false_iff_not] at h <;> omega

/-- If no point is found the grid is coarser than the interval. -/
theorem le_of_gridPoint_eq_none (hx : x.significand ≠ 0) (h : x.gridPoint tie k = none) :
    3 * 2 ^ (x.exponent - 2) ≤ (10 : ℚ) ^ k := by
  have hscale := unitScale_pos x k
  have hgrid : 3 * x.unitScale k ≤ x.gridScale k := by
    unfold gridPoint at h
    extract_lets i unit scale grid below gapBelow gapAbove inside at h
    have hgrid : 0 < grid := Nat.mul_pos (Nat.pow_pos (by decide)) (Nat.pow_pos (by decide))
    have hbelow : below * grid ≤ i.value * scale := Nat.div_mul_le_self _ _
    have habove : i.value * scale < (below + 1) * grid :=
      Nat.lt_mul_of_div_lt (Nat.lt_succ_self _) hgrid
    -- the two neighbours of the double lie on either side of the interval
    have hneither : inside below = false ∧ inside (below + 1) = false := by
      split at h
      · grind
      · cases h
      · cases h
      · next hout hout' => exact ⟨hout, hout'⟩
    have hgap := calc below * grid + 3 * scale
        ≤ i.low * scale + 3 * scale :=
          Nat.add_le_add_right (le_low_of_not_contains hscale hneither.1 hbelow) _
      _ = (i.low + 3) * scale := (Nat.add_mul _ _ _).symm
      _ ≤ i.high * scale := Nat.mul_le_mul_right _ (low_add_three_le hx)
      _ ≤ (below + 1) * grid := high_le_of_not_contains hneither.2 habove
      _ = below * grid + grid := Nat.succ_mul _ _
    exact Nat.le_of_add_le_add_left hgap
  have hgrid : (3 : ℚ) * x.unitScale k ≤ x.gridScale k := by exact_mod_cast hgrid
  rw [← le_div_iff₀ (two_zpow_pos _), ← gridScale_div_unitScale,
    le_div_iff₀ (Nat.cast_pos.2 hscale)]
  exact hgrid

/-! ## The scan -/

/-- The scan ends on a grid with a point or on the last one, having found no point on the
    coarser ones. -/
theorem firstGridPoint_spec (tie : Tie) (x : Double) (fuel : Nat) (k : ℤ) :
    ∃ k', (firstGridPoint tie x fuel k).2 = k' ∧ k - fuel ≤ k' ∧ k' ≤ k ∧
      (x.gridPoint tie k' = some (firstGridPoint tie x fuel k).1 ∨
        k' = k - fuel ∧ x.gridPoint tie k' = none) ∧
      (k' < k → x.gridPoint tie (k' + 1) = none) := by
  induction fuel generalizing k with
  | zero =>
    refine ⟨k, rfl, by simp, le_refl k, ?_, fun h => absurd h (lt_irrefl k)⟩
    cases h : x.gridPoint tie k with
    | none => exact .inr ⟨by simp, rfl⟩
    | some n => exact .inl (by simp [firstGridPoint, h])
  | succ fuel ih =>
    rw [firstGridPoint]
    cases h : x.gridPoint tie k with
    | some n => exact ⟨k, rfl, by omega, le_refl k, .inl h, fun h => absurd h (lt_irrefl k)⟩
    | none =>
      obtain ⟨k', hk', hlow, hhigh, hpoint, hnone⟩ := ih (k - 1)
      refine ⟨k', hk', by push_cast; omega, by omega, ?_, fun hlt => ?_⟩
      · refine hpoint.imp_right fun ⟨hlast, hnone⟩ => ⟨by push_cast; omega, hnone⟩
      · rcases Int.lt_or_eq_of_le hhigh with hlt' | rfl
        · exact hnone hlt'
        · rwa [sub_add_cancel]

end Grid

/-! ## Enough digits -/

/-- The decimal exponent at which the scan for a double of so many bits begins. -/
def leading (bits : ℤ) : ℤ := bits * 30103 / 100000 + 2

/-- Whether the scan for doubles of so many bits, counted from the least exponent, begins above
    the leading digit and reaches a grid that is finer than the interval. All numbers are scaled
    to be whole. -/
def leadingSuits (i : Nat) : Bool :=
  let leading := (i * 30103 + 7869378) / 100000
  Nat.ble (2 ^ i * 10 ^ 400) (10 ^ leading * 2 ^ 1074) &&
    Nat.blt (10 ^ (leading - 20) * 2 ^ 1128) (3 * 2 ^ i * 10 ^ 400)

theorem leadingSuits_all : (List.range 2098).all leadingSuits = true := by decide +kernel

/-- Between the least exponent and the greatest the leading digit is found, and seventeen digits
    are finer than the interval. -/
theorem leading_table {i : Nat} (hi : i < 2098) :
    2 ^ i * 10 ^ 400 ≤ 10 ^ (leading ((i : ℤ) - 1074) + 400).toNat * 2 ^ 1074 ∧
    10 ^ (leading ((i : ℤ) - 1074) + 380).toNat * 2 ^ 1128 < 3 * 2 ^ i * 10 ^ 400 := by
  have hsuits := List.all_eq_true.1 leadingSuits_all i (List.mem_range.2 hi)
  rw [leadingSuits, Bool.and_eq_true, Nat.ble_eq, Nat.blt_eq] at hsuits
  have hfirst : (leading ((i : ℤ) - 1074) + 400).toNat = (i * 30103 + 7869378) / 100000 := by
    unfold leading
    omega
  have hlast : (leading ((i : ℤ) - 1074) + 380).toNat = (i * 30103 + 7869378) / 100000 - 20 := by
    unfold leading
    omega
  rw [hfirst, hlast]
  exact hsuits

section Leading

variable {bits : ℤ} (hlow : -1074 ≤ bits) (hhigh : bits ≤ 1023)

theorem ten_zpow_leading (j : Nat) (h : 0 ≤ leading bits + j) :
    (10 : ℚ) ^ leading bits = 10 ^ (leading bits + j).toNat / 10 ^ j := by
  rw [eq_div_iff (by positivity), ← zpow_natCast, ← zpow_natCast, ← zpow_add₀ (by norm_num),
    Int.toNat_of_nonneg h]

include hlow hhigh

theorem two_zpow_le_leading : (2 : ℚ) ^ bits ≤ 10 ^ leading bits := by
  obtain ⟨i, hi⟩ := Int.eq_ofNat_of_zero_le (show 0 ≤ bits + 1074 by omega)
  obtain rfl : bits = i - 1074 := by omega
  have htable : (2 : ℚ) ^ i * 10 ^ 400 ≤
      10 ^ (leading ((i : ℤ) - 1074) + 400).toNat * 2 ^ 1074 := by
    exact_mod_cast (leading_table (by omega)).1
  rw [ten_zpow_leading 400 (by unfold leading; omega), zpow_sub₀ two_ne_zero, zpow_natCast,
    le_div_iff₀ (by positivity), div_mul_eq_mul_div]
  exact (div_le_iff₀ (by positivity)).2 htable

theorem leading_sub_lt : (10 : ℚ) ^ (leading bits - 20) < 3 * 2 ^ (bits - 54) := by
  obtain ⟨i, hi⟩ := Int.eq_ofNat_of_zero_le (show 0 ≤ bits + 1074 by omega)
  obtain rfl : bits = i - 1074 := by omega
  have htable : (10 : ℚ) ^ (leading ((i : ℤ) - 1074) + 380).toNat * 2 ^ 1128 <
      3 * 2 ^ i * 10 ^ 400 := by
    exact_mod_cast (leading_table (by omega)).2
  have hten : (10 : ℚ) ^ (leading ((i : ℤ) - 1074) - 20) =
      10 ^ (leading ((i : ℤ) - 1074) + 380).toNat / 10 ^ 400 := by
    have htwenty : (10 : ℚ) ^ (20 : ℤ) = 10 ^ 20 := by norm_num
    rw [zpow_sub₀ (by norm_num), ten_zpow_leading 380 (by unfold leading; omega), div_div, htwenty,
      ← pow_add]
    simp only [Nat.cast_ofNat, Nat.reduceAdd]
  have htwo : (2 : ℚ) ^ ((i : ℤ) - 1074 - 54) = 2 ^ i / 2 ^ 1128 := by
    rw [sub_sub, zpow_sub₀ two_ne_zero, zpow_natCast]
    norm_num
  rw [hten, htwo, mul_div_assoc', div_lt_div_iff₀ (by positivity) (by positivity)]
  exact htable

end Leading

section Shortest

variable {x : Double} {tie : Tie} {n : Nat} {k : ℤ}

/-- The place of a double's first bit. -/
def bits (x : Double) : ℤ := x.significand.log2 + x.exponent

theorem log2_le (hx : x.significand ≠ 0) : x.significand.log2 ≤ 52 := by
  have := (Nat.log2_lt hx).2 (show x.significand < 2 ^ 53 from x.canonical.1)
  omega

theorem bits_bounds (hx : x.significand ≠ 0) :
    -1074 ≤ x.bits ∧ x.bits ≤ 1023 ∧ x.bits - 54 ≤ x.exponent - 2 := by
  have hlog := log2_le hx
  obtain ⟨-, hleast, hgreatest, -⟩ := x.canonical
  rw [bits]
  omega

/-- The interval ends below four times the first bit. -/
theorem high_lt (x : Double) :
    (x.interval.high : ℚ) * 2 ^ (x.exponent - 2) < 2 ^ 2 * 2 ^ x.bits := by
  have hlt : x.interval.high < 2 ^ (x.significand.log2 + 4) := by
    have hlog := @Nat.lt_log2_self x.significand
    have hone : 1 ≤ 2 ^ x.significand.log2 := Nat.one_le_two_pow
    rw [interval]
    rw [Nat.pow_succ] at hlog
    dsimp only
    rw [Nat.pow_add]
    omega
  have hlt : (x.interval.high : ℚ) < 2 ^ (x.significand.log2 + 4) := by exact_mod_cast hlt
  calc (x.interval.high : ℚ) * 2 ^ (x.exponent - 2)
      < 2 ^ (x.significand.log2 + 4) * 2 ^ (x.exponent - 2) :=
        mul_lt_mul_of_pos_right hlt (two_zpow_pos _)
    _ = 2 ^ 2 * 2 ^ x.bits := by
        rw [← two_zpow_add, ← two_zpow_add, bits]
        congr 1
        push_cast
        ring

/-- The scan finds a point, between its first grid and its last. -/
theorem shortest_spec (hx : x.significand ≠ 0) (h : x.shortest tie = (n, k)) :
    x.gridPoint tie k = some n ∧ leading x.bits - 20 ≤ k ∧ k ≤ leading x.bits ∧
      (k < leading x.bits → x.gridPoint tie (k + 1) = none) := by
  obtain ⟨hlow, hhigh, hexponent⟩ := bits_bounds hx
  have hscan : firstGridPoint tie x 20 (leading x.bits) = (n, k) := h
  obtain ⟨k', hk, hfirst, hlast, hpoint, hnone⟩ := firstGridPoint_spec tie x 20 (leading x.bits)
  rw [hscan] at hk hpoint
  obtain rfl : k = k' := hk
  refine ⟨?_, by exact_mod_cast hfirst, hlast, hnone⟩
  rcases hpoint with hpoint | ⟨rfl, hfails⟩
  · exact hpoint
  · -- the last grid is finer than the interval and has a point in it
    have hcoarse := le_of_gridPoint_eq_none hx hfails
    have hfine := leading_sub_lt hlow hhigh
    have hpow : (2 : ℚ) ^ (x.bits - 54) ≤ 2 ^ (x.exponent - 2) :=
      zpow_le_zpow_right₀ one_le_two hexponent
    push_cast at hcoarse
    linarith

/-- The digits of the shortest decimal fit 64 bits. -/
theorem shortest_lt (hx : x.significand ≠ 0) (h : x.shortest tie = (n, k)) : n < 2 ^ 64 := by
  obtain ⟨hlow, hhigh, -⟩ := bits_bounds hx
  obtain ⟨hpoint, -, hlast, hnone⟩ := shortest_spec hx h
  have hten := ten_zpow_pos k
  have hle := (near_of_gridPoint hpoint).le_high
  have hn : (n : ℚ) * 10 ^ k < 2 ^ 64 * 10 ^ k := by
    rcases Int.lt_or_eq_of_le hlast with hlt | rfl
    · -- the grid is no finer than the tenth of one that is coarser than the interval
      have hcoarse := le_of_gridPoint_eq_none hx (hnone hlt)
      have hhigh : (x.interval.high : ℚ) ≤ 2 ^ 56 := by
        have := x.significand_le
        rw [interval]
        push_cast
        linarith
      have hwide := mul_le_mul_of_nonneg_right hhigh (two_zpow_pos (x.exponent - 2)).le
      rw [zpow_add_one₀ (by norm_num)] at hcoarse
      linarith
    · have hend := high_lt x
      have hleading := two_zpow_le_leading hlow hhigh
      linarith
  exact_mod_cast lt_of_mul_lt_mul_right hn hten.le

/-- They are not all zero. -/
theorem shortest_pos (hx : x.significand ≠ 0) (h : x.shortest tie = (n, k)) : 0 < n := by
  obtain ⟨hpoint, -⟩ := shortest_spec hx h
  refine Nat.pos_of_ne_zero ?_
  rintro rfl
  have hlow := (near_of_gridPoint hpoint).low_le
  have hpos : 0 < x.interval.low := by
    have := x.low_eq_or
    omega
  have := mul_pos (Nat.cast_pos (α := ℚ).2 hpos) (two_zpow_pos (x.exponent - 2))
  rw [Nat.cast_zero, zero_mul] at hlow
  linarith

/-- Their power of ten is one of those from the least double to the greatest. -/
theorem shortest_exponent (hx : x.significand ≠ 0) (h : x.shortest tie = (n, k)) :
    -342 ≤ k ∧ k ≤ 309 := by
  obtain ⟨hlow, hhigh, -⟩ := bits_bounds hx
  obtain ⟨-, hfirst, hlast, -⟩ := shortest_spec hx h
  unfold leading at hfirst hlast
  omega

/-- The shortest decimal is near the double. -/
theorem near_shortest (hx : x.significand ≠ 0) (h : x.shortest tie = (n, k)) :
    x.Near (n * 10 ^ k) :=
  near_of_gridPoint (shortest_spec hx h).1

end Shortest

end Double

end PartyLine
