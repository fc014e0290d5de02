/-! Numerals over the ASCII digits, and the largest number that positions and settings hold. -/

namespace WidgetLocator.Text

/-- Every number that the library stores is below this bound. -/
def wordLimit : Nat := Nat.pow 2 64

/-- The value of a run of ASCII digits in base ten, zero for the empty run. -/
def decimalValue (digits : List Char) : Nat :=
  digits.foldl (fun value c => 10 * value + (c.toNat - '0'.toNat)) 0

/-- The number that a run of ASCII digits spells, if it is small enough to store. -/
def storedNumber? (digits : List Char) : Option Nat :=
  let value := decimalValue digits
  if value < wordLimit then some value else none

def digitValue? (base : Nat) (c : Char) : Option Nat :=
  let value :=
    if c.isDigit then some (c.toNat - '0'.toNat)
    else if 'a' ≤ c && c ≤ 'f' then some (c.toNat - 'a'.toNat + 10)
    else if 'A' ≤ c && c ≤ 'F' then some (c.toNat - 'A'.toNat + 10)
    else none
  value.filter (· < base)

def numeral? (base : Nat) (cs : List Char) : Option Nat :=
  if cs.isEmpty then none
  else cs.foldl (fun value c => do return (← value) * base + (← digitValue? base c)) (some 0)

def isSign (c : Char) : Bool := c == '+' || c == '-'

def dropSign : List Char → List Char
  | c :: cs => if isSign c then cs else c :: cs
  | [] => []

end WidgetLocator.Text
