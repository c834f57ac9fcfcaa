/-!
# Doubles

A *double* is a finite number of the binary64 format: a sign, a significand and
an exponent, worth `± significand · 2 ^ exponent`. The fields are canonical, so
two doubles are equal exactly when they are the same number (and zeros have a
sign). All operations are exact in `Nat` and round once, to the nearest double,
a tie going to the even significand.

* `Double.ofRatio?`: the double nearest to a ratio of naturals, or nothing when
  that lies beyond the largest double;
* `Double.ofNat?`, `Double.mul?`, `Double.div?`: the operations that reading a
  number needs, each one `ofRatio?` of the exact result;
* `Double.roundAbs`: the nearest natural, for settings that ask for an integer.
-/

namespace PartyLine

/-- The significand and exponent of a double: at most 53 bits, and fewer only
    at the least exponent. -/
abbrev Double.Canonical (significand : Nat) (exponent : Int) : Prop :=
  significand < 0x20000000000000 ∧ -1074 ≤ exponent ∧ exponent ≤ 971 ∧
    (0x10000000000000 ≤ significand ∨ exponent = -1074)

/-- A finite double, worth `± significand · 2 ^ exponent`. -/
structure Double where
  negative : Bool
  significand : Nat
  exponent : Int
  canonical : Double.Canonical significand exponent
  deriving DecidableEq

namespace Double

/-- The zero of the given sign. -/
def zero (negative : Bool) : Double := ⟨negative, 0, -1074, by decide⟩

instance : Inhabited Double := ⟨zero false⟩

/-- Both zeros are zero. -/
def isZero (x : Double) : Bool := x.significand == 0

/-- The same magnitude with the given sign. -/
def withSign (negative : Bool) (x : Double) : Double := { x with negative }

/-- The natural nearest to `num / den`, the even one of two. -/
def roundEven (num den : Nat) : Nat :=
  if 2 * (num % den) < den ∨ (2 * (num % den) = den ∧ num / den % 2 = 0) then
    num / den
  else
    num / den + 1

/-- The double of these fields, if they are canonical. -/
def ofFields? (negative : Bool) (significand : Nat) (exponent : Int) : Option Double :=
  if h : Canonical significand exponent then some ⟨negative, significand, exponent, h⟩ else none

/-- `num / den` measured in units of `2 ^ e`, rounded. -/
def roundAt (num den : Nat) (e : Int) : Nat :=
  roundEven (num * Nat.pow 2 (-e).toNat) (den * Nat.pow 2 e.toNat)

/-- The exponent at which `num / den` is rounded: the one that leaves 53 bits,
    and not below the least one. -/
def unitExponent (num den : Nat) : Int :=
  let e := max (-1074) ((num.log2 : Int) - den.log2 - 53)
  if num * Nat.pow 2 (-e).toNat < 0x20000000000000 * (den * Nat.pow 2 e.toNat) then e else e + 1

/-- The double nearest to `± num / den`; none when that exceeds every double. -/
def ofRatio? (negative : Bool) (num den : Nat) : Option Double :=
  if num = 0 then
    some (zero negative)
  else
    let e := unitExponent num den
    let m := roundAt num den e
    if m = 0x20000000000000 then ofFields? negative 0x10000000000000 (e + 1)
    else ofFields? negative m e

/-- The numerator of a double's magnitude over `den`. -/
def num (x : Double) : Nat := x.significand * Nat.pow 2 x.exponent.toNat

/-- The denominator of a double's magnitude, a power of two. -/
def den (x : Double) : Nat := Nat.pow 2 (-x.exponent).toNat

/-- The double nearest to a natural. -/
def ofNat? (n : Nat) : Option Double := ofRatio? false n 1

/-- The product, rounded. -/
def mul? (x y : Double) : Option Double :=
  ofRatio? (x.negative != y.negative) (x.num * y.num) (x.den * y.den)

/-- The quotient by a nonzero double, rounded. -/
def div? (x y : Double) : Option Double :=
  if y.isZero then none
  else ofRatio? (x.negative != y.negative) (x.num * y.den) (x.den * y.num)

/-- The double nearest to `± digits · 10 ^ exponent`; none beyond the largest.
    Magnitudes from `1e310` on exceed every double, and those below `1e-330`
    round to zero, so that no greater power of ten is ever needed. -/
def ofDecimal? (negative : Bool) (digits : Nat) (exponent : Int) : Option Double :=
  let leading := exponent + (Nat.toDigits 10 digits).length
  if digits = 0 ∨ leading < -330 then some (zero negative)
  else if 310 < leading then none
  else ofRatio? negative (digits * Nat.pow 10 exponent.toNat) (Nat.pow 10 (-exponent).toNat)

/-- The natural nearest to the magnitude, a half going up. -/
def roundAbs (x : Double) : Nat := (2 * x.num + x.den) / (2 * x.den)

end Double

/-- A double or one of the values that stand outside the finite ones. -/
inductive ExtendedDouble where
  | finite (x : Double)
  | infinite (negative : Bool)
  | notANumber
  deriving DecidableEq

namespace ExtendedDouble

instance : Inhabited ExtendedDouble := ⟨.notANumber⟩

/-- A rounded magnitude, an infinity where it exceeds every double. -/
def ofRounded (negative : Bool) : Option Double → ExtendedDouble
  | some x => .finite x
  | none => .infinite negative

/-- Zero of either sign; everything else, an infinity or no number, is not. -/
def isZero : ExtendedDouble → Bool
  | .finite x => x.isZero
  | _ => false

/-- The nearest natural, halves away from zero, held within `0 … limit`. -/
def clampNat (limit : Nat) : ExtendedDouble → Nat
  | .finite x => if x.negative then 0 else min limit x.roundAbs
  | .infinite negative => if negative then 0 else limit
  | .notANumber => 0

end ExtendedDouble

end PartyLine
