import WidgetLocator.Path.Step
import WidgetLocator.Record.Basic
import WidgetLocator.Record.Identifier
import WidgetLocator.Widget.Rule

/-! From steps to locators. The locators of a path form a chain: each one is contained in the one
before it and extends its identifier by the tag, the archetype and the attribute tests of the step.
Positions show in the metadata only. -/

namespace WidgetLocator.Record

/-- What a step adds to an identifier, before it is brought into canonical form. -/
def pieces (classify : Classifier) (s : Step) : List String :=
  (if s.isWildcard then "any" else s.tag) :: classify s.tag ::
    s.tests.flatMap fun t => [t.name, t.value]

/-- The identifier of a step inside the container `parent`, which is empty for the first step. -/
def identifier (classify : Classifier) (parent : String) (s : Step) : String :=
  let own := pieces classify s
  Identifier.canonical ("_".intercalate (if parent.isEmpty then own else parent :: own))

/-- What a condition writes into the metadata: an attribute its value, a position above one its
number. -/
def conditionWrites : Condition → List (String × Value)
  | .test t => [(t.name, .string t.value)]
  | .position n => if n > 1 then [("occurrence", .int n)] else []

def writes (classify : Classifier) (s : Step) : List (String × Value) :=
  ("archetype", .string (classify s.tag)) :: s.conditions.flatMap conditionWrites ++ [("visible", .int 1)]

def ofStep (classify : Classifier) (parent : String) (s : Step) : Record :=
  ⟨identifier classify parent s, Metadata.ofWrites (writes classify s), parent⟩

def chain (classify : Classifier) (parent : String) : List Step → List Record
  | [] => []
  | s :: steps =>
    let record := ofStep classify parent s
    record :: chain classify record.id steps

def ofSteps (classify : Classifier) (steps : List Step) : List Record := chain classify "" steps

end WidgetLocator.Record
