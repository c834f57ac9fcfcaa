import Mathlib.Data.Nat.Notation
import PartyLine.Json.Printer
import PartyLine.Json.Reader

/-!
# Integers in text

An integer that fits 64 bits is written in decimal digits without leading zeros, and
reading takes them as that integer, whatever follows that cannot go on a number.

* `Reader.Bounded`: what may follow a number;
* `Reader.appendDigits_eq`: the digits of a number that fits are all taken;
* `Reader.number_toDigits`, `Reader.scalar_integerText`: an integer is read back.
-/

namespace PartyLine

namespace Json

namespace Reader

/-- Whether a character may go on a number. -/
def isNumeric (c : Char) : Bool := c.isDigit || c == '.' || c == 'e' || c == 'E'

/-- The text does not go on a number before it. -/
def Bounded (s : List Char) : Prop := ∀ c ∈ s.head?, isNumeric c = false

theorem bounded_nil : Bounded [] := by simp [Bounded]

theorem bounded_cons {c : Char} {s : List Char} : Bounded (c :: s) ↔ isNumeric c = false := by
  simp [Bounded]

variable {rest : List Char}

theorem Bounded.takeWhile_isDigit (h : Bounded rest) : rest.takeWhile Char.isDigit = [] := by
  cases rest with
  | nil => rfl
  | cons c rest =>
    have hc := bounded_cons.1 h
    simp only [isNumeric, Bool.or_eq_false_iff] at hc
    simp [hc]

theorem Bounded.dropWhile_isDigit (h : Bounded rest) : rest.dropWhile Char.isDigit = rest := by
  have hsplit := rest.takeWhile_append_dropWhile (p := Char.isDigit)
  rwa [h.takeWhile_isDigit, List.nil_append] at hsplit

/-- Digits only add to a significand. -/
theorem le_ofDigitChars (cs : List Char) (significand : Nat) :
    significand ≤ Nat.ofDigitChars 10 cs significand := by
  induction cs generalizing significand with
  | nil => exact Nat.le_refl _
  | cons c cs ih =>
    refine Nat.le_trans ?_ (ih (10 * significand + (c.toNat - '0'.toNat)))
    omega

/-- Digits whose number fits 64 bits are all taken. -/
theorem appendDigits_eq {cs : List Char} {significand : Nat}
    (h : Nat.ofDigitChars 10 cs significand < 0x10000000000000000) :
    appendDigits significand cs = (Nat.ofDigitChars 10 cs significand, cs.length) := by
  induction cs generalizing significand with
  | nil => rfl
  | cons c cs ih =>
    have hnext : Nat.ofDigitChars 10 (c :: cs) significand =
        Nat.ofDigitChars 10 cs (significand * 10 + digitValue c) := by
      simp [Nat.ofDigitChars, digitValue, Nat.mul_comm]
    rw [hnext] at h ⊢
    have hfits := Nat.lt_of_le_of_lt (le_ofDigitChars cs _) h
    simp only [appendDigits, hfits, if_true, ih h, List.length_cons]

/-- Only the digits of zero begin with a zero. -/
theorem eq_zero_of_toDigits {n : Nat} {more : List Char} (h : Nat.toDigits 10 n = '0' :: more) :
    n = 0 := by
  induction n using Nat.strongRecOn generalizing more with
  | ind n ih =>
    by_cases hn : n < 10
    · rw [Nat.toDigits_of_lt_base hn] at h
      obtain ⟨hdigit, -⟩ := List.cons.inj h
      have hvalue := @Nat.ofDigitChars_ten_toDigits n
      rw [Nat.toDigits_of_lt_base hn, hdigit] at hvalue
      exact hvalue.symm
    · -- the digits of the tenth part come first
      rw [Nat.toDigits_of_base_le (by omega) (Nat.le_of_not_lt hn)] at h
      obtain ⟨c, cs, hcs⟩ := List.exists_cons_of_ne_nil (@Nat.toDigits_ne_nil (n / 10) 10)
      rw [hcs] at h
      obtain ⟨rfl, -⟩ := List.cons.inj h
      have := ih (n / 10) (by omega) hcs
      omega

theorem isDigit_of_mem_toDigits {n : Nat} {c : Char} (h : c ∈ Nat.toDigits 10 n) : c.isDigit :=
  Nat.isDigit_of_mem_toDigits (by omega) (Nat.le_refl _) h

/-- The digits of a number that fits 64 bits, with its sign, are read as an integer. -/
theorem number_toDigits {n : Nat} (hn : n < 0x10000000000000000) (hrest : Bounded rest)
    {negative : Bool} {k : Number} (hk : integer? negative n = some k) :
    number negative (Nat.toDigits 10 n ++ rest) = .ok (k, rest) := by
  have hdigits : (Nat.toDigits 10 n ++ rest).takeWhile Char.isDigit = Nat.toDigits 10 n := by
    rw [List.takeWhile_append_of_pos fun _ => isDigit_of_mem_toDigits, hrest.takeWhile_isDigit,
      List.append_nil]
  have hremaining : (Nat.toDigits 10 n ++ rest).dropWhile Char.isDigit = rest := by
    rw [List.dropWhile_append_of_pos fun _ => isDigit_of_mem_toDigits, hrest.dropWhile_isDigit]
  have hvalue := @Nat.ofDigitChars_ten_toDigits n
  have htaken : appendDigits 0 (Nat.toDigits 10 n) = (n, (Nat.toDigits 10 n).length) := by
    rw [appendDigits_eq (by rwa [hvalue]), hvalue]
  unfold number
  simp only [hdigits, hremaining]
  split
  · next hnil => exact absurd hnil Nat.toDigits_ne_nil
  · next more hzero =>
    obtain rfl := eq_zero_of_toDigits hzero
    cases hzero
  · rw [htaken]
    simp only [Int.sub_self]
    split
    · simp [bounded_cons, isNumeric] at hrest
    · simp [bounded_cons, isNumeric] at hrest
    · simp [bounded_cons, isNumeric] at hrest
    · simp [hk]

/-- A scalar that begins with a digit is a number. -/
theorem scalar_of_isDigit {c : Char} (hc : c.isDigit) (s : List Char) :
    scalar (c :: s) = (do
      let (n, r) ← number false (c :: s)
      return (.number n, r)) := by
  unfold scalar
  split
  · next h => cases h; cases hc
  · next h => cases h; cases hc
  · next h => cases h; cases hc
  · next h => cases h; cases hc
  · next h => cases h; cases hc
  · next h => cases h; simp [hc]
  · next h => cases h

/-- An integer is read back. -/
theorem scalar_integerText (i : Int)
    (h : -0x8000000000000000 ≤ i ∧ i < 0x10000000000000000) (hrest : Bounded rest) :
    scalar (integerText i ++ rest) = .ok (.number (.integer i h), rest) := by
  cases i with
  | ofNat n =>
    have hn : n < 0x10000000000000000 := Int.ofNat_lt.1 h.2
    have hnumber : number false (Nat.toDigits 10 n ++ rest) = .ok (.integer (.ofNat n) h, rest) :=
      number_toDigits hn hrest (by simp [integer?, hn])
    obtain ⟨c, cs, hcs⟩ := List.exists_cons_of_ne_nil (@Nat.toDigits_ne_nil n 10)
    have hc : c.isDigit := isDigit_of_mem_toDigits (hcs ▸ List.mem_cons_self)
    rw [hcs] at hnumber
    rw [integerText, hcs, List.cons_append, scalar_of_isDigit hc, ← List.cons_append, hnumber]
    rfl
  | negSucc n =>
    have hn : n + 1 ≤ 0x8000000000000000 := by have := h.1; omega
    have hnumber : number true (Nat.toDigits 10 (n + 1) ++ rest) =
        .ok (.integer (.negSucc n) h, rest) := by
      refine number_toDigits (by omega) hrest ?_
      rw [integer?, if_pos rfl, dif_pos ⟨Nat.succ_pos n, hn⟩]
      rfl
    show (do
      let (k, r) ← number true (Nat.toDigits 10 (n + 1) ++ rest)
      return (Scalar.number k, r)) = _
    rw [hnumber]
    rfl

end Reader

end Json

end PartyLine
