import WidgetLocator.Except
import WidgetLocator.Path.Cursor
import WidgetLocator.Path.Step
import WidgetLocator.Text.Number

/-! Predicates: what stands between the brackets of a step. A condition is a bare test
`price > 35`, whose value is taken as it is written, an attribute test `@name = 'value'`, in whose
value the escapes are resolved, or a position. The words `and` and `or` join conditions and leave no
trace, so all conditions of a predicate are meant to hold. -/

namespace WidgetLocator.Path

open Text

/-- A backslash stands for the character after it, and at the end for itself. -/
def unescape : List Char → List Char
  | [] => []
  | '\\' :: c :: rest => c :: unescape rest
  | c :: rest => c :: unescape rest

def leadingNumber? (text : String) : Option Nat := storedNumber? (text.toList.takeWhile Char.isDigit)

namespace Cursor

variable {ts : List Token} (c : Cursor ts)

def readComparison : Except ParseError (Comparison × Cursor ts) := do
  let (t, d) ← c.consume .operator .comparison
  match Comparison.ofSymbol? t.text with
  | some op => return (op, d)
  | none => throw (.unexpected .comparison c.offset s!"'{t.text}'")

def readBareValue : Except ParseError (Token × Cursor ts) :=
  match c.match? .literal with
  | some found => .ok found
  | none => c.consume .tag .literalOrTag

def atBareTest : Bool :=
  c.check .tag && c.peekKind 1 == .operator && (c.peekKind 2 == .literal || c.peekKind 2 == .tag)

def readBareTest : Except ParseError (Condition × Cursor ts) := do
  let (name, c) ← c.consume .tag .attributeName
  let (op, c) ← c.readComparison
  let (value, c) ← c.readBareValue
  return (.test ⟨name.text, op, value.text⟩, c)

/-- Reads an attribute test whose `@` has just been read. -/
def readAttributeTest : Except ParseError (Condition × Cursor ts) := do
  let (name, c) ← c.consume .tag .attributeName
  let (op, c) ← c.readComparison
  let (value, c) ← c.consume .literal .quotedLiteral
  return (.test ⟨name.text, op, String.ofList (unescape value.text.toList)⟩, c)

def readPosition : Except ParseError (Condition × Cursor ts) := do
  let (t, d) ← c.consume .tag .position
  match leadingNumber? t.text with
  | some n => return (.position n, d)
  | none => throw (.notACondition c.offset c.describe)

def atConnective : Bool := c.check .tag && c.current?.any fun t => t.text == "and" || t.text == "or"

theorem isAtEnd_of_atConnective {c : Cursor ts} (h : c.atConnective) : c.isAtEnd = false := by
  rw [atConnective, Bool.and_eq_true] at h
  exact isAtEnd_of_check h.1

/-- Reads a condition, or a connective, which is none. -/
def readCondition : Except ParseError (Option Condition × Cursor ts) :=
  if c.atBareTest then c.readBareTest.map fun (condition, c) => (some condition, c)
  else
    match c.match? .atSign with
    | some (_, c) => c.readAttributeTest.map fun (condition, c) => (some condition, c)
    | none =>
      if c.current?.any Token.isNumeric then c.readPosition.map fun (condition, c) => (some condition, c)
      else if h : c.atConnective then .ok (none, c.next (isAtEnd_of_atConnective h))
      else .error (.notACondition c.offset c.describe)

section Progress

variable {c} {d : Cursor ts} {t : Token}

theorem pos_readComparison {op : Comparison} (h : c.readComparison = .ok (op, d)) : c.pos < d.pos := by
  obtain ⟨⟨t, e⟩, ht, hop⟩ := bind_eq_ok_iff.1 h
  dsimp only at hop
  split at hop <;> cases hop
  exact pos_consume ht

theorem pos_readBareValue (h : c.readBareValue = .ok (t, d)) : c.pos < d.pos := by
  rw [readBareValue] at h
  split at h
  · next found =>
    cases h
    exact pos_match? found
  · exact pos_consume h

theorem pos_readBareTest {a : Condition} (h : c.readBareTest = .ok (a, d)) : c.pos < d.pos := by
  obtain ⟨⟨name, c₁⟩, hname, h⟩ := bind_eq_ok_iff.1 h
  obtain ⟨⟨op, c₂⟩, hop, h⟩ := bind_eq_ok_iff.1 h
  obtain ⟨⟨value, c₃⟩, hvalue, h⟩ := bind_eq_ok_iff.1 h
  cases h
  exact Nat.lt_trans (Nat.lt_trans (pos_consume hname) (pos_readComparison hop)) (pos_readBareValue hvalue)

theorem pos_readAttributeTest {a : Condition} (h : c.readAttributeTest = .ok (a, d)) : c.pos < d.pos := by
  obtain ⟨⟨name, c₁⟩, hname, h⟩ := bind_eq_ok_iff.1 h
  obtain ⟨⟨op, c₂⟩, hop, h⟩ := bind_eq_ok_iff.1 h
  obtain ⟨⟨value, c₃⟩, hvalue, h⟩ := bind_eq_ok_iff.1 h
  cases h
  exact Nat.lt_trans (Nat.lt_trans (pos_consume hname) (pos_readComparison hop)) (pos_consume hvalue)

theorem pos_readPosition {a : Condition} (h : c.readPosition = .ok (a, d)) : c.pos < d.pos := by
  obtain ⟨⟨t, e⟩, ht, hn⟩ := bind_eq_ok_iff.1 h
  dsimp only at hn
  split at hn <;> cases hn
  exact pos_consume ht

theorem pos_readCondition {a : Option Condition} (h : c.readCondition = .ok (a, d)) : c.pos < d.pos := by
  rw [readCondition] at h
  split at h
  · obtain ⟨_, hread, h⟩ := map_eq_ok_iff.1 h
    cases h
    exact pos_readBareTest hread
  · split at h
    · next hsign =>
      obtain ⟨_, hread, h⟩ := map_eq_ok_iff.1 h
      cases h
      exact Nat.lt_trans (pos_match? hsign) (pos_readAttributeTest hread)
    · split at h
      · obtain ⟨_, hread, h⟩ := map_eq_ok_iff.1 h
        cases h
        exact pos_readPosition hread
      · split at h
        · cases h
          exact Nat.lt_succ_self c.pos
        · cases h

end Progress

/-- Reads conditions up to a closing bracket or the end, which are left unread. -/
def readConditions {ts : List Token} (c : Cursor ts) : Except ParseError (List Condition × Cursor ts) :=
  if _h : c.check .closeBracket = false ∧ c.isAtEnd = false then
    match _heard : c.readCondition with
    | .error e => .error e
    | .ok (condition, d) => (readConditions d).map fun (conditions, d) => (condition.toList ++ conditions, d)
  else .ok ([], c)
termination_by ts.length - c.pos
decreasing_by
  have := pos_lt _h.2
  have := pos_readCondition _heard
  omega

end Cursor

/-- The conditions at the head of a list of tokens; what follows them does not matter. -/
def parsePredicate (ts : List Token) : Except ParseError (List Condition) :=
  (Cursor.start ts).readConditions.map (·.1)

end WidgetLocator.Path
