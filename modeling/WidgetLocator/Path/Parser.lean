import WidgetLocator.Path.Predicate

/-! Paths. A path is a row of steps. A slash before a step makes it absolute, and two slashes, as one
token or as two, stand for a step of their own, after which the next step begins afresh. -/

namespace WidgetLocator.Path

/-- What the slashes at the head of a path announce, and the place after them. -/
inductive Opening (σ : Type) where
  /-- A double slash. -/
  | descendant (rest : σ)
  | step (absolute : Bool) (rest : σ)

namespace Cursor

variable {ts : List Token} (c : Cursor ts)

def opening : Opening (Cursor ts) :=
  match c.match? .slash with
  | none => .step false c
  | some (slash, c) =>
    if slash.isDescendant then .descendant c
    else
      match c.match? .slash with
      | some (_, c) => .descendant c
      | none => .step true c

def readAxis : String × Cursor ts :=
  match c.match? .axis with
  | some (t, c) => (t.text, c)
  | none => (Step.defaultAxis, c)

def readNodeTest : Except ParseError (String × Cursor ts) :=
  match c.match? .wildcard with
  | some (_, c) => .ok (Step.wildcard, c)
  | none =>
    match c.match? .tag with
    | some (t, c) => .ok (t.text, c)
    | none => .error (.noNodeTest c.offset c.describe)

def readBrackets : Except ParseError (Option (List Condition) × Cursor ts) :=
  match c.match? .openBracket with
  | none => .ok (none, c)
  | some (_, c) => do
    let (conditions, c) ← c.readConditions
    match c.match? .closeBracket with
    | some (_, c) => return (some conditions, c)
    | none => throw (.noClosingBracket c.offset c.describe)

/-- A namespace after the step goes in front of its tag. -/
def readNamespace (tag : String) : String × Cursor ts :=
  match c.match? .namespaceName with
  | some (t, c) => (s!"{t.text}:{tag}", c)
  | none => (tag, c)

def readStep (absolute : Bool) : Except ParseError (Step × Cursor ts) := do
  let (axis, c) := c.readAxis
  let (tag, c) ← c.readNodeTest
  let (predicate, c) ← c.readBrackets
  let (tag, c) := c.readNamespace tag
  return (⟨axis, tag, predicate, absolute⟩, c)

section Progress

variable {c} {d : Cursor ts}

theorem pos_opening_descendant (h : c.opening = .descendant d) : c.pos < d.pos := by
  rw [opening] at h
  split at h
  · cases h
  · next first =>
    have hfirst := pos_match? first
    split at h
    · cases h
      exact hfirst
    · split at h
      · next second =>
        cases h
        exact Nat.lt_trans hfirst (pos_match? second)
      · cases h

theorem pos_opening_step {absolute : Bool} (h : c.opening = .step absolute d) : c.pos ≤ d.pos := by
  rw [opening] at h
  split at h
  · cases h
    exact Nat.le_refl c.pos
  · next first =>
    split at h
    · cases h
    · split at h
      · cases h
      · cases h
        exact Nat.le_of_lt (pos_match? first)

variable (c) in
theorem pos_readAxis : c.pos ≤ c.readAxis.2.pos := by
  rw [readAxis]
  split
  · next found => exact Nat.le_of_lt (pos_match? found)
  · exact Nat.le_refl c.pos

theorem pos_readNodeTest {tag : String} (h : c.readNodeTest = .ok (tag, d)) : c.pos < d.pos := by
  rw [readNodeTest] at h
  split at h
  · next found =>
    cases h
    exact pos_match? found
  · split at h
    · next found =>
      cases h
      exact pos_match? found
    · cases h

theorem pos_readConditions {conditions : List Condition} (h : c.readConditions = .ok (conditions, d)) :
    c.pos ≤ d.pos := by
  fun_induction readConditions c generalizing conditions with
  | case1 => cases h
  | case2 c _ _ c' hcondition ih =>
    obtain ⟨_, hread, h⟩ := map_eq_ok_iff.1 h
    cases h
    exact Nat.le_trans (Nat.le_of_lt (pos_readCondition hcondition)) (ih hread)
  | case3 =>
    cases h
    exact Nat.le_refl _

theorem pos_readBrackets {predicate : Option (List Condition)} (h : c.readBrackets = .ok (predicate, d)) :
    c.pos ≤ d.pos := by
  rw [readBrackets] at h
  split at h
  · cases h
    exact Nat.le_refl c.pos
  · next hopen =>
    obtain ⟨⟨conditions, c'⟩, hconditions, hclose⟩ := bind_eq_ok_iff.1 h
    dsimp only at hclose
    split at hclose
    · next hfound =>
      cases hclose
      have := pos_match? hopen
      have := pos_readConditions hconditions
      have := pos_match? hfound
      omega
    · cases hclose

variable (c) in
theorem pos_readNamespace (tag : String) : c.pos ≤ (c.readNamespace tag).2.pos := by
  rw [readNamespace]
  split
  · next found => exact Nat.le_of_lt (pos_match? found)
  · exact Nat.le_refl c.pos

theorem pos_readStep {absolute : Bool} {s : Step} (h : c.readStep absolute = .ok (s, d)) : c.pos < d.pos := by
  obtain ⟨⟨tag, c₁⟩, htag, h⟩ := bind_eq_ok_iff.1 h
  obtain ⟨⟨predicate, c₂⟩, hpredicate, h⟩ := bind_eq_ok_iff.1 h
  obtain rfl : (c₂.readNamespace tag).2 = d := congrArg Prod.snd (Except.ok.inj h)
  have haxis := c.pos_readAxis
  have htag : c.readAxis.2.pos < c₁.pos := pos_readNodeTest htag
  have hpredicate := pos_readBrackets hpredicate
  have hnamespace := c₂.pos_readNamespace tag
  omega

end Progress

def readSteps {ts : List Token} (c : Cursor ts) : Except ParseError (List Step) :=
  if _h : c.isAtEnd = false then
    match _opened : c.opening with
    | .descendant d => (readSteps d).map (Step.descendantOrSelf :: ·)
    | .step absolute d =>
      match _heard : d.readStep absolute with
      | .error e => .error e
      | .ok (s, d) => (readSteps d).map (s :: ·)
  else .ok []
termination_by ts.length - c.pos
decreasing_by
  · have := pos_lt _h
    have := pos_opening_descendant _opened
    omega
  · have := pos_lt _h
    have := pos_opening_step _opened
    have := pos_readStep _heard
    omega

end Cursor

def parse (ts : List Token) : Except ParseError (List Step) := (Cursor.start ts).readSteps

end WidgetLocator.Path
