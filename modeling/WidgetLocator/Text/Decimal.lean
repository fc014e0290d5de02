import WidgetLocator.Text.Number

/-! Decimals: digits with a point among them and an exponent after them. They are kept as they were
written, so that nothing about them is rounded before it has to be. -/

namespace WidgetLocator.Text

/-- A decimal without a sign: its digits with the point left out, the number of them that stood after
the point, and the exponent. -/
structure Decimal where
  digits : List Char
  places : Nat
  exponent : Int
deriving BEq, Repr

def decimalDigits? (cs : List Char) : Option (Decimal × List Char) :=
  let whole := cs.takeWhile Char.isDigit
  let (fraction, rest) := match cs.dropWhile Char.isDigit with
    | '.' :: rest => (rest.takeWhile Char.isDigit, rest.dropWhile Char.isDigit)
    | rest => ([], rest)
  if whole.isEmpty && fraction.isEmpty then none else some (⟨whole ++ fraction, fraction.length, 0⟩, rest)

/-- A decimal that takes up the whole text, with or without an exponent. -/
def decimal? (cs : List Char) : Option Decimal := do
  let (decimal, rest) ← decimalDigits? cs
  match rest with
  | [] => return decimal
  | e :: rest =>
    guard (e == 'e' || e == 'E')
    let digits := dropSign rest
    guard (!digits.isEmpty && digits.all Char.isDigit)
    let size := decimalValue digits
    return { decimal with exponent := if rest.head? == some '-' then -size else size }

namespace Decimal

def significant (d : Decimal) : List Char := d.digits.dropWhile (· == '0')

def scale (d : Decimal) : Int := d.exponent - d.places

/-- How many digits stand before the point. A decimal of that size is less than ten to the power of
the size, and no less than a tenth of it. -/
def size (d : Decimal) : Int := d.significant.length + d.scale

/-- The digits before and after the point, without zeros at the outer ends. -/
def parts (d : Decimal) : List Char × List Char :=
  let digits := d.significant
  if digits.isEmpty then ([], [])
  else
    let zeros := fun n : Int => List.replicate n.toNat '0'
    let written := zeros (-d.size) ++ digits ++ zeros d.scale
    let whole := d.size.toNat
    (written.take whole, ((written.drop whole).reverse.dropWhile (· == '0')).reverse)

/-- The value without an exponent, and without a point if it is whole. -/
def text (d : Decimal) : List Char :=
  let (whole, fraction) := d.parts
  (if whole.isEmpty then ['0'] else whole) ++ (if fraction.isEmpty then [] else '.' :: fraction)

end Decimal
end WidgetLocator.Text
