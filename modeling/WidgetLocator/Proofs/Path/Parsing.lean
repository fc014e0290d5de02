import Mathlib.Tactic.SplitIfs
import WidgetLocator.Proofs.Path.Cursor
import WidgetLocator.Proofs.Path.Grammar

/-! Parsing follows the grammar. Each reader takes exactly the tokens of one part of a derivation
off the head of a list and gives what that part means. For the small readers this is an
equivalence; for conditions, steps and paths the two directions are apart, because a derivation
leaves open what comes after it while a reader looks at it. -/

namespace WidgetLocator.Path

open Text Grammar

section Leaves

theorem take?_eq_some_iff {k : Token.Kind} {ts rest : List Token} {t : Token} :
    take? k ts = some (t, rest) ↔ ts = t :: rest ∧ t.kind = k := by
  cases ts with
  | nil => simp [take?]
  | cons u ts =>
    simp only [take?]
    split_ifs with hk
    · simp only [Option.some.injEq, Prod.mk.injEq, List.cons.injEq]
      exact ⟨fun h => ⟨h, h.1 ▸ hk⟩, fun h => h.1⟩
    · simp only [List.cons.injEq, false_iff]
      intro h
      obtain ⟨⟨rfl, -⟩, ht⟩ := h
      exact hk ht

@[simp] theorem take?_leaf {k : Token.Kind} (t : Leaf k) (rest : List Token) :
    take? k (t.1 :: rest) = some (t.1, rest) := take?_eq_some_iff.2 ⟨rfl, t.2⟩

theorem take?_eq_none {k : Token.Kind} {kinds : List Token.Kind} {ts : List Token}
    (h : Follows kinds ts) (hk : k ∈ kinds) : take? k ts = none := by
  cases ts with
  | nil => rfl
  | cons t ts => exact if_neg fun (ht : t.kind = k) => h t rfl (ht ▸ hk)

theorem expect_eq_ok_iff {stop : Nat} {k : Token.Kind} {expected : Expected} {ts rest : List Token}
    {t : Token} : expect stop k expected ts = .ok (t, rest) ↔ ts = t :: rest ∧ t.kind = k := by
  rw [← take?_eq_some_iff, expect]
  cases take? k ts <;> simp

theorem ofSymbol?_eq_some_iff {text : String} {op : Comparison} :
    Comparison.ofSymbol? text = some op ↔ text = op.symbol := by
  constructor
  · intro h
    have found := List.find?_some (p := fun op : Comparison => op.symbol == text) h
    exact (eq_of_beq found).symm
  · rintro rfl
    cases op <;> decide

theorem readComparison_eq_ok_iff {stop : Nat} {ts rest : List Token} {op : Comparison} :
    readComparison stop ts = .ok (op, rest) ↔ ∃ l : OperatorLeaf, ts = l.token :: rest ∧ l.op = op := by
  unfold readComparison
  constructor
  · intro h
    split at h
    · cases h
    · next t rest' heard =>
      obtain ⟨rfl, hk⟩ := expect_eq_ok_iff.1 heard
      split at h
      · next op' hs =>
        cases h
        exact ⟨⟨t, op, hk, ofSymbol?_eq_some_iff.1 hs⟩, rfl, rfl⟩
      · cases h
  · intro h
    obtain ⟨l, rfl, rfl⟩ := h
    rw [expect_eq_ok_iff.2 ⟨rfl, l.kind⟩]
    simp [ofSymbol?_eq_some_iff.2 l.text]

theorem readBareValue_eq_ok_iff {stop : Nat} {ts rest : List Token} {t : Token} :
    readBareValue stop ts = .ok (t, rest) ↔
      ∃ v : Leaf .literal ⊕ Leaf .tag, ts = eitherToken v :: rest ∧ eitherToken v = t := by
  unfold readBareValue
  constructor
  · intro h
    split at h
    · next found =>
      cases h
      obtain ⟨rfl, hk⟩ := take?_eq_some_iff.1 found
      exact ⟨.inl ⟨t, hk⟩, rfl, rfl⟩
    · obtain ⟨rfl, hk⟩ := expect_eq_ok_iff.1 h
      exact ⟨.inr ⟨t, hk⟩, rfl, rfl⟩
  · intro h
    obtain ⟨v | v, rfl, rfl⟩ := h
    · simp [eitherToken]
    · have noLiteral : Follows [.literal] (v.1 :: rest) := by simp [Follows, v.2]
      rw [eitherToken, take?_eq_none noLiteral (by simp)]
      exact expect_eq_ok_iff.2 ⟨rfl, v.2⟩

end Leaves

section Conditions

theorem readBareTest_eq_ok_iff {stop : Nat} {ts rest : List Token} {c : Condition} :
    readBareTest stop ts = .ok (c, rest) ↔ ∃ name op value,
      ts = (Clause.bare name op value).tokens ++ rest ∧
        (Clause.bare name op value).condition? = some c := by
  unfold readBareTest
  constructor
  · intro h
    obtain ⟨⟨name, ts₁⟩, hn, h⟩ := bind_eq_ok_iff.1 h
    obtain ⟨⟨op, ts₂⟩, ho, h⟩ := bind_eq_ok_iff.1 h
    obtain ⟨⟨value, ts₃⟩, hv, h⟩ := bind_eq_ok_iff.1 h
    cases h
    obtain ⟨rfl, hname⟩ := expect_eq_ok_iff.1 hn
    obtain ⟨o, rfl, rfl⟩ := readComparison_eq_ok_iff.1 ho
    obtain ⟨v, rfl, rfl⟩ := readBareValue_eq_ok_iff.1 hv
    exact ⟨⟨name, hname⟩, o, v, rfl, rfl⟩
  · intro hw
    obtain ⟨name, op, value, rfl, h⟩ := hw
    obtain rfl := Option.some.inj h
    exact bind_eq_ok_iff.2 ⟨_, expect_eq_ok_iff.2 ⟨rfl, name.2⟩,
      bind_eq_ok_iff.2 ⟨_, readComparison_eq_ok_iff.2 ⟨op, rfl, rfl⟩,
      bind_eq_ok_iff.2 ⟨_, readBareValue_eq_ok_iff.2 ⟨value, rfl, rfl⟩, rfl⟩⟩⟩

theorem readAttributeTest_eq_ok_iff {stop : Nat} (sign : Leaf .atSign) {ts rest : List Token}
    {c : Condition} : readAttributeTest stop ts = .ok (c, rest) ↔ ∃ name op value,
      sign.1 :: ts = (Clause.quoted sign name op value).tokens ++ rest ∧
        (Clause.quoted sign name op value).condition? = some c := by
  unfold readAttributeTest
  constructor
  · intro h
    obtain ⟨⟨name, ts₁⟩, hn, h⟩ := bind_eq_ok_iff.1 h
    obtain ⟨⟨op, ts₂⟩, ho, h⟩ := bind_eq_ok_iff.1 h
    obtain ⟨⟨value, ts₃⟩, hv, h⟩ := bind_eq_ok_iff.1 h
    cases h
    obtain ⟨rfl, hname⟩ := expect_eq_ok_iff.1 hn
    obtain ⟨o, rfl, rfl⟩ := readComparison_eq_ok_iff.1 ho
    obtain ⟨rfl, hvalue⟩ := expect_eq_ok_iff.1 hv
    exact ⟨⟨name, hname⟩, o, ⟨value, hvalue⟩, rfl, rfl⟩
  · intro hw
    obtain ⟨name, op, value, ht, h⟩ := hw
    obtain rfl := Option.some.inj h
    obtain rfl := (List.cons.inj ht).2
    exact bind_eq_ok_iff.2 ⟨_, expect_eq_ok_iff.2 ⟨rfl, name.2⟩,
      bind_eq_ok_iff.2 ⟨_, readComparison_eq_ok_iff.2 ⟨op, rfl, rfl⟩,
      bind_eq_ok_iff.2 ⟨_, expect_eq_ok_iff.2 ⟨rfl, value.2⟩, rfl⟩⟩⟩

theorem isNumeric_iff {t : Token} :
    t.isNumeric ↔ t.kind = .tag ∧ ∃ c ∈ t.text.toList.head?, c.isDigit := by
  cases h : t.text.toList.head? <;> simp [Token.isNumeric, h]

theorem isConnective_iff {t : Token} :
    isConnective t ↔ t.kind = .tag ∧ (t.text = "and" ∨ t.text = "or") := by
  simp [isConnective]

theorem leadingNumber?_eq_some_iff {text : String} {n : Nat} :
    leadingNumber? text = some n ↔
      decimalValue (text.toList.takeWhile Char.isDigit) < wordLimit ∧
        decimalValue (text.toList.takeWhile Char.isDigit) = n := by
  rw [leadingNumber?, storedNumber?]
  generalize decimalValue (text.toList.takeWhile Char.isDigit) = value
  by_cases small : value < wordLimit
  · rw [if_pos small, Option.some.injEq, and_iff_right small]
  · rw [if_neg small]
    exact ⟨nofun, fun h => absurd h.1 small⟩

/-- The lookahead for a bare test is an operator in the second place. -/
theorem not_atBareTest {t : Token} {ts : List Token} (h : Follows [.operator] ts) :
    atBareTest (t :: ts) = false := by
  rcases ts with _ | ⟨u, _ | ⟨v, ts⟩⟩
  · rfl
  · rfl
  · have hu : u.kind ≠ .operator := by simpa [Follows] using h
    simp [atBareTest, hu]

theorem atBareTest_bare (name : Leaf .tag) (op : OperatorLeaf) (value : Leaf .literal ⊕ Leaf .tag)
    (rest : List Token) : atBareTest ((Clause.bare name op value).tokens ++ rest) = true := by
  simp [Clause.tokens, atBareTest, name.2, op.kind, either_kind value]

theorem readCondition_sound {stop : Nat} {t : Token} {ts rest : List Token} {c : Option Condition}
    (h : readCondition stop t ts = .ok (c, rest)) :
    ∃ clause : Clause, t :: ts = clause.tokens ++ rest ∧ clause.condition? = c := by
  unfold readCondition at h
  split_ifs at h with bare hk numeric word
  · split at h
    · cases h
    · next heard =>
      cases h
      obtain ⟨name, op, value, ht, hc⟩ := readBareTest_eq_ok_iff.1 heard
      exact ⟨_, ht, hc⟩
  · split at h
    · cases h
    · next heard =>
      cases h
      obtain ⟨name, op, value, ht, hc⟩ := (readAttributeTest_eq_ok_iff ⟨t, hk⟩).1 heard
      exact ⟨_, ht, hc⟩
  · obtain ⟨ht, digit⟩ := isNumeric_iff.1 numeric
    split at h
    · next n found =>
      cases h
      obtain ⟨small, rfl⟩ := leadingNumber?_eq_some_iff.1 found
      exact ⟨.position ⟨t, ht⟩ digit small, rfl, rfl⟩
    · cases h
  · obtain ⟨ht, hw⟩ := isConnective_iff.1 word
    cases h
    exact ⟨.connective ⟨t, ht⟩ hw, rfl, rfl⟩

theorem readCondition_complete {stop : Nat} {t : Token} {ts rest : List Token} {clause : Clause}
    (h : t :: ts = clause.tokens ++ rest) (hr : Follows [.operator] rest) :
    readCondition stop t ts = .ok (clause.condition?, rest) := by
  unfold readCondition
  cases clause with
  | bare name op value =>
    have heard : readBareTest stop (t :: ts) = .ok (_, rest) :=
      readBareTest_eq_ok_iff.2 ⟨name, op, value, h, rfl⟩
    rw [if_pos (h ▸ atBareTest_bare name op value rest), heard]
    rfl
  | quoted sign name op value =>
    obtain rfl := (List.cons.inj h).1
    have noTest : atBareTest (sign.1 :: ts) = false := by
      obtain rfl := (List.cons.inj h).2
      simp [atBareTest, sign.2]
    have heard : readAttributeTest stop ts = .ok (_, rest) :=
      (readAttributeTest_eq_ok_iff sign).2 ⟨name, op, value, h, rfl⟩
    simp [noTest, sign.2, heard, Clause.condition?]
  | position u digit small =>
    obtain ⟨rfl, rfl⟩ := List.cons.inj h
    have numeric : u.1.isNumeric := isNumeric_iff.2 ⟨u.2, digit⟩
    simp [not_atBareTest hr, u.2, numeric, leadingNumber?_eq_some_iff.2 ⟨small, rfl⟩,
      Clause.condition?]
  | connective u word =>
    obtain ⟨rfl, rfl⟩ := List.cons.inj h
    have noNumber : ¬ u.1.isNumeric := fun hn => not_word_of_numeric (isNumeric_iff.1 hn).2 word
    have connective : isConnective u.1 := isConnective_iff.2 ⟨u.2, word⟩
    simp [not_atBareTest hr, u.2, noNumber, connective, Clause.condition?]

theorem readConditions_sound {stop : Nat} {ts rest : List Token} {cs : List Condition}
    (h : readConditions stop ts = .ok (cs, rest)) :
    ∃ clauses, ts = clauseTokens clauses ++ rest ∧ conditions clauses = cs := by
  fun_induction readConditions stop ts generalizing cs rest with
  | case1 => cases h; exact ⟨[], rfl, rfl⟩
  | case2 => cases h; exact ⟨[], rfl, rfl⟩
  | case3 => cases h
  | case4 => cases h
  | case5 t ts hk c rest' heard cs' rest'' heard' ih =>
    cases h
    obtain ⟨clause, ht, rfl⟩ := readCondition_sound heard
    obtain ⟨clauses, rfl, rfl⟩ := ih heard'
    refine ⟨clause :: clauses, by simp [clauseTokens, ht], ?_⟩
    cases hc : clause.condition? <;> simp [conditions, hc]

theorem readConditions_complete {stop : Nat} {clauses : List Clause} {t : Leaf .closeBracket}
    {rest : List Token} : readConditions stop (clauseTokens clauses ++ t.1 :: rest) =
      .ok (conditions clauses, t.1 :: rest) := by
  induction clauses with
  | nil =>
    rw [clauseTokens, List.flatMap_nil, List.nil_append, readConditions]
    simp [t.2, conditions]
  | cons clause clauses ih =>
    obtain ⟨u, us, hc, hk⟩ := clause.exists_head
    have hu : u.kind ≠ .closeBracket := by rcases hk with hk | hk <;> simp [hk]
    have stops : Follows [.operator] (clauseTokens clauses ++ t.1 :: rest) :=
      follows_clauseTokens (by simp [Follows, t.2])
    have heard : readCondition stop u (us ++ (clauseTokens clauses ++ t.1 :: rest)) =
        .ok (clause.condition?, _) := readCondition_complete (by rw [hc, List.cons_append]) stops
    rw [clauseTokens_cons, List.append_assoc, hc, List.cons_append, readConditions_cons hu, heard]
    simp only [ih, Except.map]
    cases hc : clause.condition? <;> simp [conditions, hc]

end Conditions

section Steps

theorem readAxis_optional {a : Option (Leaf .axis)} {rest : List Token} (hr : Follows [.axis] rest) :
    readAxis (optionalToken a ++ rest) = (a.elim "child" (·.1.text), rest) := by
  cases a with
  | none => simp [readAxis, optionalToken, take?_eq_none hr, Step.defaultAxis]
  | some t => simp [readAxis, optionalToken]

theorem readAxis_sound (ts : List Token) : ∃ a : Option (Leaf .axis),
    ts = optionalToken a ++ (readAxis ts).2 ∧ a.elim "child" (·.1.text) = (readAxis ts).1 := by
  unfold readAxis
  split
  · next t rest found =>
    obtain ⟨rfl, hk⟩ := take?_eq_some_iff.1 found
    exact ⟨some ⟨t, hk⟩, rfl, rfl⟩
  · exact ⟨none, rfl, rfl⟩

theorem readNodeTest_eq_ok_iff {stop : Nat} {ts rest : List Token} {tag : String} :
    readNodeTest stop ts = .ok (tag, rest) ↔
      ∃ test, ts = eitherToken test :: rest ∧ nodeTest test = tag := by
  unfold readNodeTest
  constructor
  · intro h
    split at h
    · next t rest' found =>
      cases h
      obtain ⟨rfl, hk⟩ := take?_eq_some_iff.1 found
      exact ⟨.inl ⟨t, hk⟩, rfl, rfl⟩
    · split at h
      · next t rest' found =>
        cases h
        obtain ⟨rfl, hk⟩ := take?_eq_some_iff.1 found
        exact ⟨.inr ⟨t, hk⟩, rfl, rfl⟩
      · cases h
  · intro h
    obtain ⟨t | t, rfl, rfl⟩ := h
    · simp [eitherToken, nodeTest, Step.wildcard]
    · have noWildcard : Follows [.wildcard] (t.1 :: rest) := by simp [Follows, t.2]
      simp [eitherToken, nodeTest, take?_eq_none noWildcard]

theorem readBrackets_sound {stop : Nat} {ts rest : List Token} {predicate : Option (List Condition)}
    (h : readBrackets stop ts = .ok (predicate, rest)) : ∃ b : Option Brackets,
      ts = b.elim [] Brackets.tokens ++ rest ∧ b.map (conditions ·.clauses) = predicate := by
  unfold readBrackets at h
  split at h
  · cases h; exact ⟨none, rfl, rfl⟩
  · next t ts' opened =>
    obtain ⟨rfl, hopen⟩ := take?_eq_some_iff.1 opened
    split at h
    · cases h
    · next cs rest' heard =>
      obtain ⟨clauses, rfl, rfl⟩ := readConditions_sound heard
      split at h
      · next u rest'' closed =>
        cases h
        obtain ⟨rfl, hclose⟩ := take?_eq_some_iff.1 closed
        exact ⟨some ⟨⟨t, hopen⟩, clauses, ⟨u, hclose⟩⟩, by simp [Brackets.tokens], rfl⟩
      · cases h

theorem readBrackets_complete {stop : Nat} {b : Option Brackets} {rest : List Token}
    (hr : b = none → Follows [.openBracket] rest) :
    readBrackets stop (b.elim [] Brackets.tokens ++ rest) =
      .ok (b.map (conditions ·.clauses), rest) := by
  cases b with
  | none => simp [readBrackets, take?_eq_none (hr rfl)]
  | some b => simp [readBrackets, Brackets.tokens, readConditions_complete]

theorem readNamespace_optional {tag : String} {a : Option (Leaf .namespaceName)} {rest : List Token}
    (hr : Follows [.namespaceName] rest) : readNamespace tag (optionalToken a ++ rest) =
      (a.elim tag fun t => t.1.text ++ ":" ++ tag, rest) := by
  cases a with
  | none => simp [readNamespace, optionalToken, take?_eq_none hr]
  | some t =>
    simp only [readNamespace, optionalToken, Option.map_some, Option.toList_some,
      List.singleton_append, take?_leaf]
    rfl

theorem readNamespace_sound (tag : String) (ts : List Token) : ∃ a : Option (Leaf .namespaceName),
    ts = optionalToken a ++ (readNamespace tag ts).2 ∧
      (a.elim tag fun t => t.1.text ++ ":" ++ tag) = (readNamespace tag ts).1 := by
  unfold readNamespace
  split
  · next t rest found =>
    obtain ⟨rfl, hk⟩ := take?_eq_some_iff.1 found
    exact ⟨some ⟨t, hk⟩, rfl, rfl⟩
  · exact ⟨none, rfl, rfl⟩

theorem readStep_sound {stop : Nat} {absolute : Bool} {ts rest : List Token} {s : Step}
    (h : readStep stop absolute ts = .ok (s, rest)) :
    ∃ tree : StepTree, ts = tree.tokens ++ rest ∧ tree.step absolute = s := by
  unfold readStep at h
  obtain ⟨axis, hts, haxis⟩ := readAxis_sound ts
  simp only at h
  split at h
  · cases h
  · next tag ts₁ heard =>
    obtain ⟨test, htest, rfl⟩ := readNodeTest_eq_ok_iff.1 heard
    split at h
    · cases h
    · next predicate ts₂ heard' =>
      obtain ⟨brackets, hbrackets, rfl⟩ := readBrackets_sound heard'
      obtain ⟨ns, hns, htag⟩ := readNamespace_sound (nodeTest test) ts₂
      cases h
      refine ⟨⟨axis, test, brackets, ns⟩, ?_, by simp [StepTree.step, haxis, htag]⟩
      simp only [StepTree.tokens, List.append_assoc, List.cons_append]
      rw [← hns, ← hbrackets, ← htest, ← hts]

theorem readStep_complete {stop : Nat} {absolute : Bool} {tree : StepTree} {rest : List Token}
    (hr : tree.EndsBefore rest) : readStep stop absolute (tree.tokens ++ rest) =
      .ok (tree.step absolute, rest) := by
  obtain ⟨axis, test, brackets, ns⟩ := tree
  have noBracket (h : brackets = none) : Follows [.openBracket] (optionalToken ns ++ rest) :=
    follows_optional (by decide) (hr.noBracket h)
  have htest (ts : List Token) : readNodeTest stop (eitherToken test :: ts) = .ok (nodeTest test, ts) :=
    readNodeTest_eq_ok_iff.2 ⟨test, rfl, rfl⟩
  simp only [StepTree.tokens, List.append_assoc, List.cons_append, readStep,
    readAxis_optional (follows_test _ _), htest, readBrackets_complete noBracket,
    readNamespace_optional hr.noNamespace]
  rfl

end Steps

section Paths

variable {stop : Nat}

theorem opening_descendant {t : Token} {ts rest : List Token} (h : opening t ts = .descendant rest) :
    ∃ i : Item, t :: ts = i.tokens ++ rest ∧ i.meaning = Step.descendantOrSelf := by
  unfold opening at h
  split_ifs at h with hk double
  · cases h
    exact ⟨.doubleSlash ⟨t, hk⟩ ((isDescendant_iff hk).1 double), rfl, rfl⟩
  · split at h
    · next u rest' found =>
      cases h
      obtain ⟨rfl, hu⟩ := take?_eq_some_iff.1 found
      exact ⟨.slashes ⟨t, hk⟩ (mt (isDescendant_iff hk).2 double) ⟨u, hu⟩, rfl, rfl⟩
    · cases h

theorem opening_step {t : Token} {ts ts' : List Token} {absolute : Bool}
    (h : opening t ts = .step absolute ts') :
    ∃ slash : Option { t : Leaf .slash // t.1.text ≠ "//" },
      t :: ts = optionalToken (slash.map (·.1)) ++ ts' ∧ slash.isSome = absolute := by
  unfold opening at h
  split_ifs at h with hk double
  · split at h
    · cases h
    · cases h
      exact ⟨some ⟨⟨t, hk⟩, mt (isDescendant_iff hk).2 double⟩, rfl, rfl⟩
  · cases h
    exact ⟨none, rfl, rfl⟩

theorem readSteps_descendant {t : Token} {ts rest : List Token}
    (opened : opening t ts = .descendant rest) :
    readSteps stop (t :: ts) = (readSteps stop rest).map (Step.descendantOrSelf :: ·) := by
  rw [readSteps_cons, opened]

theorem readSteps_step {t : Token} {ts ts' rest : List Token} {absolute : Bool} {s : Step}
    (opened : opening t ts = .step absolute ts') (heard : readStep stop absolute ts' = .ok (s, rest)) :
    readSteps stop (t :: ts) = (readSteps stop rest).map (s :: ·) := by
  simp only [readSteps_cons, opened, heard]

/-- A step is read off the head of the tokens, and the rest decides how the reading ends. -/
theorem readSteps_tree {slash : Option { t : Leaf .slash // t.1.text ≠ "//" }} {s : StepTree}
    {rest : List Token} (hr : s.EndsBefore rest) :
    readSteps stop ((Item.step slash s).tokens ++ rest) =
      (readSteps stop rest).map (s.step slash.isSome :: ·) := by
  obtain ⟨t, ts, hs, hk⟩ := s.exists_head
  have noSlash : Follows [.slash] (s.tokens ++ rest) := by
    rcases hk with hk | hk | hk <;> simp [hs, Follows, hk]
  have heard (absolute : Bool) : readStep stop absolute (s.tokens ++ rest) =
      .ok (s.step absolute, rest) := readStep_complete hr
  cases slash with
  | some u =>
    have opened : opening u.1.1 (s.tokens ++ rest) = .step true (s.tokens ++ rest) := by
      simp [opening, u.1.2, isDescendant_iff u.1.2, u.2, take?_eq_none noSlash]
    exact readSteps_step opened (heard true)
  | none =>
    have ht : t.kind ≠ .slash := by rcases hk with hk | hk | hk <;> simp [hk]
    have opened : opening t (ts ++ rest) = .step false (t :: (ts ++ rest)) := by
      simp [opening, ht]
    rw [hs, List.cons_append] at heard
    simpa [Item.tokens, optionalToken, hs] using readSteps_step opened (heard false)

theorem readSteps_item {i : Item} {rest : List Token} (hr : EndsStep rest) :
    readSteps stop (i.tokens ++ rest) = (readSteps stop rest).map (i.meaning :: ·) := by
  cases i with
  | doubleSlash t double => exact readSteps_descendant (by simp [opening, t.2, isDescendant_iff t.2, double])
  | slashes t single u => exact readSteps_descendant (by simp [opening, t.2, isDescendant_iff t.2, single])
  | step slash s => exact readSteps_tree hr.endsBefore

theorem readSteps_openBracket (t : Leaf .openBracket) (ts : List Token) :
    readSteps stop (t.1 :: ts) = .error (.noNodeTest t.1.offset (foundAt [t.1])) := by
  have opened : opening t.1 ts = .step false (t.1 :: ts) := by simp [opening, t.2]
  have failed : readStep stop false (t.1 :: ts) = .error (.noNodeTest t.1.offset (foundAt [t.1])) := by
    simp [readStep, readAxis, readNodeTest, take?, t.2, offsetAt, foundAt]
  simp only [readSteps_cons, opened, failed]

/-- The tokens of a derivation leave nothing pending. -/
theorem readSteps_append {d : Derivation} {rest : List Token} (hr : EndsStep rest) :
    readSteps stop (tokens d ++ rest) = (readSteps stop rest).map (steps d ++ ·) := by
  induction d with
  | nil => cases h : readSteps stop rest <;> simp [tokens, steps, h, Except.map]
  | cons i d ih =>
    have htokens : tokens (i :: d) = i.tokens ++ tokens d := List.flatMap_cons
    rw [htokens, List.append_assoc, readSteps_item (endsStep_append hr), ih]
    cases readSteps stop rest <;> rfl

theorem readSteps_sound {ts : List Token} {ss : List Step} (h : readSteps stop ts = .ok ss) :
    ∃ d : Derivation, tokens d = ts ∧ steps d = ss := by
  fun_induction readSteps stop ts generalizing ss with
  | case1 => cases h; exact ⟨[], rfl, rfl⟩
  | case2 => cases h
  | case3 t ts rest opened ss' heard ih =>
    cases h
    obtain ⟨i, ht, hi⟩ := opening_descendant opened
    obtain ⟨d, rfl, rfl⟩ := ih heard
    exact ⟨i :: d, by simp [tokens, ht], by simp [steps, hi]⟩
  | case4 => cases h
  | case5 => cases h
  | case6 t ts absolute ts' opened s rest heard ss' heard' ih =>
    cases h
    obtain ⟨slash, ht, rfl⟩ := opening_step opened
    obtain ⟨tree, rfl, rfl⟩ := readStep_sound heard
    obtain ⟨d, rfl, rfl⟩ := ih heard'
    exact ⟨.step slash tree :: d, by simp [tokens, Item.tokens, ht], rfl⟩

theorem readSteps_complete (d : Derivation) : readSteps stop (tokens d) = .ok (steps d) := by
  have h : readSteps stop (tokens d ++ []) = (readSteps stop []).map (steps d ++ ·) :=
    readSteps_append (by simp [Follows])
  rw [List.append_nil, readSteps] at h
  rw [h, Except.map, List.append_nil]

end Paths

end WidgetLocator.Path
