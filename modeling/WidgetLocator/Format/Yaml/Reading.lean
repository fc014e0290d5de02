import WidgetLocator.Text.Double

/-! What a plain YAML scalar is read as. A text that would be read as null, a boolean or a number has
to be quoted when it is meant as a text. Integers count up to 128 bits; a decimal counts if it can be
stored as a double. -/

namespace WidgetLocator.Yaml

open Text

def isNullWord (s : String) : Bool := ["", "null", "Null", "NULL", "~"].contains s

def isBoolWord (s : String) : Bool := ["true", "True", "TRUE", "false", "False", "FALSE"].contains s

def dropPlus : List Char → List Char
  | '+' :: cs => cs
  | cs => cs

def startsWithSign (cs : List Char) : Bool := cs.head?.any isSign

/-- More than one digit, the first of them a zero, with or without a sign. Such a text is no number,
and is quoted all the same. -/
def isPaddedNumeral (cs : List Char) : Bool :=
  let digits := dropSign cs
  digits.length > 1 && digits.head? == some '0' && digits.all Char.isDigit

def based? : List Char → Option (Nat × List Char)
  | '0' :: 'x' :: cs => some (16, cs)
  | '0' :: 'o' :: cs => some (8, cs)
  | '0' :: 'b' :: cs => some (2, cs)
  | _ => none

def magnitude? (cs : List Char) : Option Nat :=
  match based? cs with
  | some (base, digits) => numeral? base digits
  | none => if isPaddedNumeral cs then none else numeral? 10 cs

def isInteger (cs : List Char) : Bool :=
  match cs with
  | '-' :: cs => (magnitude? cs).any (· ≤ Nat.pow 2 127)
  | cs => (magnitude? (dropPlus cs)).any (· < Nat.pow 2 128)

def isFloat (s : String) : Bool :=
  let cs := s.toList
  let unsigned := String.ofList (dropPlus cs)
  if cs.head? == some '+' && startsWithSign (dropPlus cs) then false
  else if [".inf", ".Inf", ".INF"].contains unsigned then true
  else if ["-.inf", "-.Inf", "-.INF", ".nan", ".NaN", ".NAN"].contains s then true
  else ((decimal? (dropSign cs)).bind Double.ofDecimal?).isSome

/-- Whether the text, written plainly, would be read as anything but itself. -/
def needsQuotes (s : String) : Bool :=
  isNullWord s || isBoolWord s || isInteger s.toList || isPaddedNumeral s.toList || isFloat s

end WidgetLocator.Yaml
