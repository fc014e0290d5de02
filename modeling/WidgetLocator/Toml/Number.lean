import WidgetLocator.Config.Setting

/-! Bare TOML values: booleans and numbers. Underscores may stand between the digits of a number. An
integer is decimal, hexadecimal, octal or binary and fits into 64 bits; any other number is a decimal
with a point or an exponent, or one of the words `inf` and `nan`. -/

namespace WidgetLocator.Toml

open Text

def isGrouped (base : Nat) (cs : List Char) : Bool :=
  (cs.splitOn '_').all fun run => !run.isEmpty && run.all fun c => (digitValue? base c).isSome

/-- Grouped decimal digits, with no zero before the others. -/
def isWhole (cs : List Char) : Bool := isGrouped 10 cs && (cs.head? != some '0' || cs.length == 1)

def ungroup (cs : List Char) : List Char := cs.filter (· != '_')

def isExponentMark (c : Char) : Bool := c == 'e' || c == 'E'

def isDecimal (cs : List Char) : Bool :=
  let exponent := cs.dropWhile (!isExponentMark ·)
  let exponentFits := exponent.isEmpty || isGrouped 10 (dropSign exponent.tail)
  match (cs.takeWhile (!isExponentMark ·)).splitOn '.' with
  | [whole] => isWhole whole && !exponent.isEmpty && exponentFits
  | [whole, fraction] => isWhole whole && isGrouped 10 fraction && exponentFits
  | _ => false

/-- A decimal is stored as a double. One too large for that is refused when it is positive and endless
when it is negative. -/
def doubleSetting? (negative : Bool) (cs : List Char) : Option Setting := do
  guard (isDecimal cs)
  match Double.ofDecimal? (← decimal? (ungroup cs)) with
  | some size => return .double negative size
  | none => if negative then return .infinite true else none

/-- The value of an integer without a sign, in base ten or the base that its first two characters
name. -/
def basedInteger? : List Char → Option Nat
  | '0' :: 'x' :: cs => if isGrouped 16 cs then numeral? 16 (ungroup cs) else none
  | '0' :: 'o' :: cs => if isGrouped 8 cs then numeral? 8 (ungroup cs) else none
  | '0' :: 'b' :: cs => if isGrouped 2 cs then numeral? 2 (ungroup cs) else none
  | cs => if isWhole cs then some (decimalValue (ungroup cs)) else none

def unsigned? (negative : Bool) (cs : List Char) : Option Setting :=
  if cs = ['i', 'n', 'f'] then some (.infinite negative)
  else if cs = ['n', 'a', 'n'] then some .notANumber
  else if isWhole cs then
    let value : Int := decimalValue (ungroup cs)
    let value := if negative then -value else value
    if -(Nat.pow 2 63 : Int) ≤ value && value < Nat.pow 2 63 then some (.int value) else none
  else doubleSetting? negative cs

/-- What a bare word stands for. A sign goes before decimal numbers only. -/
def bare? (cs : List Char) : Option Setting :=
  match cs with
  | ['t', 'r', 'u', 'e'] => some (.bool true)
  | ['f', 'a', 'l', 's', 'e'] => some (.bool false)
  | '-' :: cs => unsigned? true cs
  | '+' :: cs => unsigned? false cs
  | cs =>
    match unsigned? false cs with
    | some s => some s
    | none => ((basedInteger? cs).filter (· < Nat.pow 2 63)).map fun n => .int n

def isBareChar (c : Char) : Bool := c.isAlphanum || c == '_' || c == '+' || c == '-' || c == '.'

end WidgetLocator.Toml
