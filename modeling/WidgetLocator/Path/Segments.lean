import WidgetLocator.Path.Step
import WidgetLocator.Text.Number
import WidgetLocator.Text.Word

/-! The plain form of a path: pieces between slashes, each a word, then possibly one attribute test
`[@key='value']`, then possibly one position `[N]`. A piece of any other form is left out, so this
reader never fails. -/

namespace WidgetLocator.Path

open Text

/-- Reads the characters of `word` and gives back the rest. -/
def afterText? : (word : List Char) → List Char → Option (List Char)
  | [], cs => some cs
  | _ :: _, [] => none
  | w :: word, c :: cs => if w = c then afterText? word cs else none

def run? (p : Char → Bool) (cs : List Char) : Option (List Char × List Char) :=
  let found := cs.takeWhile p
  if found.isEmpty then none else some (found, cs.dropWhile p)

def bracketedTest? (cs : List Char) : Option ((List Char × List Char) × List Char) := do
  let cs ← afterText? ['[', '@'] cs
  let (key, cs) ← run? isWord cs
  let cs ← afterText? ['=', '\''] cs
  let (value, cs) ← run? (· != '\'') cs
  let cs ← afterText? ['\'', ']'] cs
  return ((key, value), cs)

def bracketedDigits? (cs : List Char) : Option (List Char × List Char) := do
  let cs ← afterText? ['['] cs
  let (digits, cs) ← run? isDigit cs
  let cs ← afterText? [']'] cs
  return (digits, cs)

/-- The position that the digits name: one unless they are ASCII digits of a number small enough to
store. -/
def ordinal (digits : List Char) : Nat :=
  if digits.all Char.isDigit then (storedNumber? digits).getD 1 else 1

def segment? (absolute : Bool) (cs : List Char) : Option Step := do
  let (tag, cs) ← run? isWord cs
  let (tests, cs) := match bracketedTest? cs with
    | some ((key, value), cs) => ([Condition.test ⟨String.ofList key, .eq, String.ofList value⟩], cs)
    | none => ([], cs)
  let (positions, cs) := match bracketedDigits? cs with
    | some (digits, cs) => ([Condition.position (ordinal digits)], cs)
    | none => ([], cs)
  guard cs.isEmpty
  let conditions := tests ++ positions
  return ⟨Step.defaultAxis, String.ofList tag, if conditions.isEmpty then none else some conditions, absolute⟩

/-- One slash at the start makes every step absolute; the rest is cut at its slashes. -/
def segments (path : String) : List Step :=
  let cs := path.toList
  let absolute := cs.head? == some '/'
  ((if absolute then cs.tail else cs).splitOn '/').filterMap (segment? absolute)

end WidgetLocator.Path
