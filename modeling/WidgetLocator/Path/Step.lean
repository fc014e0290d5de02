/-! Steps of a path. A step names an axis and a tag, may carry a predicate, and knows whether a
slash introduced it. A predicate is the list of its conditions in the order in which they were
written; identifiers are built in that order. -/

namespace WidgetLocator

inductive Comparison where
  | eq | ne | lt | le | gt | ge
deriving DecidableEq, Repr

namespace Comparison

def symbol : Comparison → String
  | eq => "="
  | ne => "!="
  | lt => "<"
  | le => "<="
  | gt => ">"
  | ge => ">="

def all : List Comparison := [eq, ne, lt, le, gt, ge]

def ofSymbol? (text : String) : Option Comparison := all.find? (·.symbol == text)

def unknownMessage (text : String) : String := s!"'{text}' is not a comparison operator"

end Comparison

structure AttributeTest where
  name : String
  op : Comparison
  value : String
deriving DecidableEq, Repr

inductive Condition where
  | test (t : AttributeTest)
  /-- The place among equal siblings, counted from one. -/
  | position (n : Nat)
deriving DecidableEq, Repr

def Condition.test? : Condition → Option AttributeTest
  | test t => some t
  | position _ => none

structure Step where
  axis : String
  tag : String
  /-- Missing without brackets, the empty list for brackets with nothing in them. -/
  predicate : Option (List Condition)
  absolute : Bool
deriving DecidableEq, Repr

namespace Step

def defaultAxis : String := "child"

def wildcard : String := "*"

def child (tag : String) : Step := ⟨defaultAxis, tag, none, false⟩

/-- The step that a double slash stands for. -/
def descendantOrSelf : Step := ⟨"descendant-or-self", wildcard, none, true⟩

def isWildcard (s : Step) : Bool := s.tag == wildcard

def conditions (s : Step) : List Condition := s.predicate.getD []

def tests (s : Step) : List AttributeTest := s.conditions.filterMap Condition.test?

end Step
end WidgetLocator
