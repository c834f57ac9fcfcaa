import PartyLine.Double

/-!
# Decimal text of doubles

A double is written with the digits of the *shortest* decimal that rounds to
it: of all decimal grids `10 ^ k`, the coarsest that has a point in the interval
of reals rounding to the double, and on it the point nearest to the double.

* `Double.shortest`: those digits and their exponent;
* `NumberStyle`: where a format writes the digits positionally and how it writes
  them; `NumberStyle.json` is the one of JSON documents, `NumberStyle.plain` the one
  that never uses an exponent.
-/

namespace PartyLine

namespace Double

/-- Which of two equally near grid points is taken. -/
inductive Tie where
  | even
  | up

/-- Twice the upper half gap and the magnitude, both in units of `2 ^ (exponent - 2)`:
    the reals that round to a double reach from `low` to `high`. -/
structure Interval where
  low : Nat
  value : Nat
  high : Nat
  /-- Ends round to the double exactly when its significand is even. -/
  closed : Bool

/-- The interval of magnitudes that round to `x`. Below a power of two the
    doubles lie half as far apart. -/
def interval (x : Double) : Interval where
  low := 4 * x.significand -
    (if x.significand = 0x10000000000000 ∧ x.exponent ≠ -1074 then 1 else 2)
  value := 4 * x.significand
  high := 4 * x.significand + 2
  closed := x.significand % 2 == 0

/-- Whether the point `num`, in the interval's unit divided by `den`, rounds to the double. -/
def Interval.contains (i : Interval) (num den : Nat) : Bool :=
  if i.closed then decide (i.low * den ≤ num ∧ num ≤ i.high * den)
  else decide (i.low * den < num ∧ num < i.high * den)

/-- The grid point of `10 ^ k` nearest to `x` among those that round to `x`,
    counted in units of the grid. -/
def gridPoint (tie : Tie) (x : Double) (k : Int) : Option Nat :=
  let i := x.interval
  let unit := x.exponent - 2
  -- one unit of the interval is `scale / grid` units of the decimal grid
  let scale := Nat.pow 2 unit.toNat * Nat.pow 10 (-k).toNat
  let grid := Nat.pow 2 (-unit).toNat * Nat.pow 10 k.toNat
  let below := i.value * scale / grid
  let gapBelow := i.value * scale - below * grid
  let gapAbove := (below + 1) * grid - i.value * scale
  let inside (n : Nat) : Bool := i.contains (n * grid) scale
  match inside below, inside (below + 1) with
  | true, true =>
      if gapBelow < gapAbove then some below
      else if gapAbove < gapBelow then some (below + 1)
      else match tie with
        | .even => if below % 2 = 0 then some below else some (below + 1)
        | .up => some (below + 1)
  | true, false => some below
  | false, true => some (below + 1)
  | false, false => none

/-- The first grid point met going from `10 ^ k` to finer grids. -/
def firstGridPoint (tie : Tie) (x : Double) : Nat → Int → Nat × Int
  | 0, k => (x.gridPoint tie k |>.getD 0, k)
  | fuel + 1, k =>
      match x.gridPoint tie k with
      | some n => (n, k)
      | none => firstGridPoint tie x fuel (k - 1)

/-- Digits and exponent of the shortest decimal of a nonzero double. The scan
    starts above its leading digit; seventeen digits are always enough. -/
def shortest (tie : Tie) (x : Double) : Nat × Int :=
  firstGridPoint tie x 20 (((x.significand.log2 : Int) + x.exponent) * 30103 / 100000 + 2)

end Double

/-- How a format writes the digits of a number. -/
structure NumberStyle where
  tie : Double.Tie
  /-- Decimal exponents of the leading digit that are written positionally. -/
  positional : Int → Bool
  /-- Whether a positional whole number ends in `.0`. -/
  keepsPoint : Bool

namespace NumberStyle

/-- JSON documents: positional from `1e-5` to below `1e16`, always with a point. -/
def json : NumberStyle where
  tie := .even
  positional e := decide (-5 ≤ e ∧ e < 16)
  keepsPoint := true

/-- Never an exponent, and no point in a whole number. -/
def plain : NumberStyle where
  tie := .up
  positional _ := true
  keepsPoint := false

/-- The digits with the point placed `k` digits from their right end. -/
def positionalText (f : NumberStyle) (digits : List Char) (k : Int) : List Char :=
  if 0 ≤ k then
    digits ++ List.replicate k.toNat '0' ++ (if f.keepsPoint then ['.', '0'] else [])
  else
    let point := (digits.length : Int) + k
    if 0 < point then digits.take point.toNat ++ '.' :: digits.drop point.toNat
    else '0' :: '.' :: List.replicate (-point).toNat '0' ++ digits

/-- One digit, the others after a point, and a signed exponent. -/
def exponentText (digits : List Char) (e : Int) : List Char :=
  digits.take 1 ++ (if digits.length ≤ 1 then [] else '.' :: digits.drop 1) ++
    'e' :: (if e < 0 then '-' else '+') :: Nat.toDigits 10 e.natAbs

/-- The text of a magnitude. -/
def magnitude (f : NumberStyle) (x : Double) : List Char :=
  if x.isZero then
    f.positionalText ['0'] 0
  else
    let (n, k) := x.shortest f.tie
    let digits := Nat.toDigits 10 n
    let e := k + digits.length - 1
    if f.positional e then f.positionalText digits k else exponentText digits e

/-- The text of a double. -/
def write (f : NumberStyle) (x : Double) : List Char :=
  if x.negative then '-' :: f.magnitude x else f.magnitude x

end NumberStyle

/-- Never an exponent, but always a point. -/
def NumberStyle.pointed : NumberStyle := { NumberStyle.plain with keepsPoint := true }

/-- The text without exponent but with a point, `inf` and `NaN` standing for the
    values that are no finite number. -/
def ExtendedDouble.pointedText : ExtendedDouble → String
  | .finite x => String.ofList (NumberStyle.pointed.write x)
  | .infinite negative => if negative then "-inf" else "inf"
  | .notANumber => "NaN"

/-- The text without exponent, `inf` and `NaN` standing for the values that are
    no finite number. -/
def ExtendedDouble.plainText : ExtendedDouble → String
  | .finite x => String.ofList (NumberStyle.plain.write x)
  | .infinite negative => if negative then "-inf" else "inf"
  | .notANumber => "NaN"

end PartyLine
