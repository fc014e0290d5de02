import WidgetLocator.Text.Decimal

/-! Doubles: the sizes that a number with a fraction can have once it is stored, which are the
multiples of powers of two with 53 bits. A decimal is stored as the nearest double, and a double is
written as the shortest decimal that is stored as it. -/

namespace WidgetLocator.Text

/-- The size `mantissa * 2 ^ exponent`. The mantissa is below `2 ^ 53`, and it is at least `2 ^ 52`
unless the exponent is the least, `-1074`. -/
structure Double where
  mantissa : Nat
  exponent : Int
deriving DecidableEq, Repr

def timesPower (base : Nat) (power : Int) (fraction : Nat × Nat) : Nat × Nat :=
  (fraction.1 * Nat.pow base power.toNat, fraction.2 * Nat.pow base (-power).toNat)

/-- The natural number nearest to a fraction, the even one if two are equally near. -/
def roundEven (fraction : Nat × Nat) : Nat :=
  let (num, den) := fraction
  let below := num / den
  let rest := 2 * (num % den)
  if den < rest || (rest == den && below % 2 == 1) then below + 1 else below

/-- The greatest exponent of a power of two that a fraction above zero reaches. -/
def floorLog2 (fraction : Nat × Nat) : Int :=
  let estimate : Int := fraction.1.log2 - fraction.2.log2
  let (num, den) := timesPower 2 (-estimate) fraction
  if den ≤ num then estimate else estimate - 1

namespace Double

def zero : Double := ⟨0, -1074⟩

def ofFraction? (fraction : Nat × Nat) : Option Double :=
  if fraction.1 = 0 then some zero
  else
    let exponent := max (floorLog2 fraction - 52) (-1074)
    let mantissa := roundEven (timesPower 2 (-exponent) fraction)
    let x : Double :=
      if mantissa = Nat.pow 2 53 then ⟨Nat.pow 2 52, exponent + 1⟩ else ⟨mantissa, exponent⟩
    if x.exponent ≤ 971 then some x else none

/-- The double nearest to a decimal, if the decimal is not too large. Decimals far from every double
are told by their size. -/
def ofDecimal? (d : Decimal) : Option Double :=
  if d.significant.isEmpty || d.size ≤ -324 then some zero
  else if d.size ≥ 310 then none
  else ofFraction? (timesPower 10 d.scale (decimalValue d.significant, 1))

def fraction (x : Double) : Nat × Nat := timesPower 2 x.exponent (x.mantissa, 1)

/-- The nearest natural number; a half goes up. -/
def nearest (x : Double) : Nat :=
  let (num, den) := x.fraction
  (2 * num + den) / (2 * den)

def exact (x : Double) : Decimal :=
  ⟨Nat.toDigits 10 (x.mantissa * Nat.pow 2 x.exponent.toNat * Nat.pow 5 (-x.exponent).toNat), 0,
    min x.exponent 0⟩

/-- The ends of the interval of values that are stored as the double, in quarters of its last place.
Below a power of two the doubles lie twice as close. -/
def ends (x : Double) : Nat × Nat :=
  let below := if x.mantissa = Nat.pow 2 52 && x.exponent > -1074 then 1 else 2
  (4 * x.mantissa - below, 4 * x.mantissa + 2)

/-- The multiple of `10 ^ k` that is nearest to the double among those that are stored as it; of two
equally near ones the greater. -/
def onGrid? (x : Double) (k : Int) : Option Nat :=
  let (num, den) := timesPower 10 (-k) (timesPower 2 (x.exponent - 2) (1, 1))
  let (low, high) := x.ends
  let isStored := fun n : Nat =>
    if x.mantissa % 2 = 0 then low * num ≤ n * den && n * den ≤ high * num
    else low * num < n * den && n * den < high * num
  let below := 4 * x.mantissa * num / den
  let isNearer := 2 * (4 * x.mantissa * num % den) < den
  match isStored below, isStored (below + 1) with
  | true, true => some (if isNearer then below else below + 1)
  | true, false => some below
  | false, true => some (below + 1)
  | false, false => none

/-- The decimal with the fewest digits among those that are stored as the double, and the nearest of
these. It has at most 17 digits, so that it lies on one of the grids that are tried, the first of
which is coarser than the double is large. -/
def shortest (x : Double) : Decimal :=
  if x.mantissa = 0 then ⟨[], 0, 0⟩
  else
    let coarsest := (floorLog2 x.fraction + 1) * 30103 / 100000 + 1
    let onGrids := (List.range 20).findSome? fun (i : Nat) =>
      let k := coarsest - i
      (x.onGrid? k).map fun n => (⟨Nat.toDigits 10 n, 0, k⟩ : Decimal)
    onGrids.getD x.exact

def text (x : Double) : List Char := x.shortest.text

end Double
end WidgetLocator.Text
