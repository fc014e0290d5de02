import WidgetLocator.Proofs.Path.Parsing

/-! How far the readers look. What a reader takes off the head of the tokens is settled by these tokens
and the two after them: with any other tokens from there on, and at any stop offset, it takes the
same tokens and gives the same result. -/

namespace WidgetLocator.Path

open Text Grammar

/-- The lists begin with the same `n` tokens, or with more. -/
def Agree (n : Nat) (ts us : List Token) : Prop := ∃ p : List Token, n ≤ p.length ∧ p <+: ts ∧ p <+: us

abbrev Reader (α : Type) := Nat → List Token → Except ParseError (α × List Token)

/-- The reader takes `taken` and gives `a`, and of what follows only the first two tokens matter. -/
def Takes {α : Type} (read : Reader α) (taken rest : List Token) (a : α) : Prop :=
  ∀ stop us, Agree 2 rest us → read stop (taken ++ us) = .ok (a, us)

section Agreement

variable {n m : Nat} {t : Token} {ts us : List Token}

theorem Agree.mono (h : Agree n ts us) (hm : m ≤ n) : Agree m ts us := by
  obtain ⟨p, hp, hts, hus⟩ := h
  exact ⟨p, Nat.le_trans hm hp, hts, hus⟩

theorem Agree.append (h : Agree n ts us) (xs : List Token) : Agree n (xs ++ ts) (xs ++ us) := by
  obtain ⟨p, hp, hts, hus⟩ := h
  refine ⟨xs ++ p, ?_, (List.prefix_append_right_inj xs).2 hts, (List.prefix_append_right_inj xs).2 hus⟩
  rw [List.length_append]
  omega

theorem Agree.exists_cons (h : Agree (n + 1) ts us) :
    ∃ t ts' us', ts = t :: ts' ∧ us = t :: us' ∧ Agree n ts' us' := by
  obtain ⟨p, hp, ⟨ts', rfl⟩, ⟨us', rfl⟩⟩ := h
  cases p with
  | nil => simp at hp
  | cons t p =>
    exact ⟨t, p ++ ts', p ++ us', rfl, rfl, p, by simpa using hp, List.prefix_append _ _,
      List.prefix_append _ _⟩

theorem Agree.of_cons (h : Agree (n + 1) (t :: ts) us) : ∃ us', us = t :: us' ∧ Agree n ts us' := by
  obtain ⟨u, ts', us', hts, rfl, h⟩ := h.exists_cons
  obtain ⟨rfl, rfl⟩ := List.cons.inj hts
  exact ⟨us', rfl, h⟩

theorem not_agree_nil : ¬ Agree (n + 1) [] us := by
  intro h
  obtain ⟨t, ts', -, hts, -⟩ := h.exists_cons
  simp at hts

theorem Agree.follows {kinds : List Token.Kind} (h : Agree (n + 1) ts us) (hts : Follows kinds ts) :
    Follows kinds us := by
  obtain ⟨t, ts', us', rfl, rfl, -⟩ := h.exists_cons
  exact hts

theorem follows_of_take?_eq_none {k : Token.Kind} (h : take? k ts = none) : Follows [k] ts := by
  intro t ht hk
  obtain ⟨ts', rfl⟩ := List.head?_eq_some_iff.1 ht
  simp [take?, List.mem_singleton.1 hk] at h

theorem atBareTest_of_agree (h : Agree 2 ts us) : atBareTest (t :: us) = atBareTest (t :: ts) := by
  obtain ⟨u, ts, us, rfl, rfl, h₁⟩ := h.exists_cons
  obtain ⟨v, ts, us, rfl, rfl, -⟩ := h₁.exists_cons
  rfl

end Agreement

section Clauses

variable {stop : Nat} {t : Token} {ts rest : List Token} {c : Option Condition}

def readClause (stop : Nat) : List Token → Except ParseError (Option Condition × List Token)
  | [] => .ok (none, [])
  | t :: ts => readCondition stop t ts

def readWord (t : Token) : Except ParseError (Option Condition) :=
  if t.isNumeric then
    match leadingNumber? t.text with
    | some n => .ok (some (.position n))
    | none => .error (.notACondition t.offset (foundAt [t]))
  else if isConnective t then .ok none
  else .error (.notACondition t.offset (foundAt [t]))

theorem readClause_bare (bare : atBareTest (t :: ts)) : readClause stop (t :: ts) =
    (readBareTest stop (t :: ts)).map fun (c, rest) => (some c, rest) := by
  rw [readClause, readCondition, if_pos bare]
  cases readBareTest stop (t :: ts) <;> rfl

theorem readClause_sign (hk : t.kind = .atSign) : readClause stop (t :: ts) =
    (readAttributeTest stop ts).map fun (c, rest) => (some c, rest) := by
  have noTest : atBareTest (t :: ts) = false := by
    rcases ts with _ | ⟨u, _ | ⟨v, ts⟩⟩ <;> simp [atBareTest, hk]
  rw [readClause, readCondition, if_neg (by simp [noTest]), if_pos hk]
  cases readAttributeTest stop ts <;> rfl

theorem readClause_word (noTest : atBareTest (t :: ts) = false) (hk : t.kind ≠ .atSign) :
    readClause stop (t :: ts) = (readWord t).map fun c => (c, ts) := by
  rw [readClause, readCondition, if_neg (by simp [noTest]), if_neg hk, readWord]
  split_ifs
  · cases leadingNumber? t.text <;> rfl
  · rfl
  · rfl

theorem readWord_sound (h : readWord t = .ok c) : ∃ clause : Clause, clause.tokens = [t] := by
  unfold readWord at h
  split_ifs at h with numeric word
  · obtain ⟨ht, digit⟩ := isNumeric_iff.1 numeric
    split at h
    · next n found => exact ⟨.position ⟨t, ht⟩ digit (leadingNumber?_eq_some_iff.1 found).1, rfl⟩
    · cases h
  · obtain ⟨ht, hw⟩ := isConnective_iff.1 word
    exact ⟨.connective ⟨t, ht⟩ hw, rfl⟩

theorem readClause_takes (h : readClause stop (t :: ts) = .ok (c, rest)) :
    ∃ clause : Clause, t :: ts = clause.tokens ++ rest ∧ Takes readClause clause.tokens rest c := by
  by_cases bare : atBareTest (t :: ts)
  · rw [readClause_bare bare] at h
    obtain ⟨⟨c', rest'⟩, heard, hc⟩ := map_eq_ok_iff.1 h
    cases hc
    obtain ⟨name, op, value, ht, hc⟩ := readBareTest_eq_ok_iff.1 heard
    refine ⟨_, ht, fun stop us _ => (readClause_bare (atBareTest_bare name op value us)).trans ?_⟩
    exact map_eq_ok_iff.2 ⟨_, readBareTest_eq_ok_iff.2 ⟨name, op, value, rfl, hc⟩, rfl⟩
  by_cases hk : t.kind = .atSign
  · rw [readClause_sign hk] at h
    obtain ⟨⟨c', rest'⟩, heard, hc⟩ := map_eq_ok_iff.1 h
    cases hc
    obtain ⟨name, op, value, ht, hc⟩ := (readAttributeTest_eq_ok_iff ⟨t, hk⟩).1 heard
    refine ⟨_, ht, fun stop us _ => (readClause_sign hk).trans ?_⟩
    exact map_eq_ok_iff.2 ⟨_, (readAttributeTest_eq_ok_iff ⟨t, hk⟩).2 ⟨name, op, value, rfl, hc⟩, rfl⟩
  · have noTest : atBareTest (t :: ts) = false := by simpa using bare
    rw [readClause_word noTest hk] at h
    obtain ⟨c', heard, hc⟩ := map_eq_ok_iff.1 h
    cases hc
    obtain ⟨clause, hclause⟩ := readWord_sound heard
    refine ⟨clause, by rw [hclause]; rfl, fun stop us hus => ?_⟩
    rw [hclause]
    exact (readClause_word ((atBareTest_of_agree hus).trans noTest) hk).trans
      (map_eq_ok_iff.2 ⟨_, heard, rfl⟩)

theorem readConditions_turn (hk : Follows [.closeBracket] (t :: ts)) : readConditions stop (t :: ts) =
    match readClause stop (t :: ts) with
    | .error e => .error e
    | .ok (c, rest) => (readConditions stop rest).map fun (cs, rest') => (c.toList ++ cs, rest') :=
  readConditions_cons (by simpa [Follows] using hk)

theorem follows_clause (clause : Clause) (ts : List Token) :
    Follows [.closeBracket] (clause.tokens ++ ts) := by
  obtain ⟨t, us, hc, hk⟩ := clause.exists_head
  rw [hc]
  rcases hk with hk | hk <;> simp [Follows, hk]

theorem readConditions_clause {clause : Clause} {us : List Token}
    (h : readClause stop (clause.tokens ++ us) = .ok (c, us)) :
    readConditions stop (clause.tokens ++ us) =
      (readConditions stop us).map fun (cs, rest') => (c.toList ++ cs, rest') := by
  have hk := follows_clause clause us
  obtain ⟨t, ts, hc, -⟩ := clause.exists_head
  rw [hc, List.cons_append] at h hk ⊢
  rw [readConditions_turn hk, h]

/-- Conditions end at a closing bracket, or where the tokens end. -/
theorem readConditions_takes {cs : List Condition} (h : readConditions stop ts = .ok (cs, rest)) :
    ∃ clauses, ts = clauseTokens clauses ++ rest ∧ Takes readConditions (clauseTokens clauses) rest cs ∧
      (rest = [] ∨ take? .closeBracket rest ≠ none) := by
  fun_induction readConditions stop ts generalizing cs rest with
  | case1 =>
    cases h
    exact ⟨[], rfl, fun stop us hus => absurd hus not_agree_nil, .inl rfl⟩
  | case2 t ts hk =>
    cases h
    refine ⟨[], rfl, fun stop us hus => ?_, .inr (by simp [take?, hk])⟩
    obtain ⟨us, rfl, -⟩ := hus.of_cons
    simp [clauseTokens, readConditions, hk]
  | case3 => cases h
  | case4 => cases h
  | case5 t ts hk c rest' heard cs' rest'' hrest' ih =>
    cases h
    have heard' : readClause stop (t :: ts) = .ok (c, rest') := heard
    obtain ⟨clause, ht, hclause⟩ := readClause_takes heard'
    obtain ⟨clauses, rfl, hclauses, hrest⟩ := ih hrest'
    refine ⟨clause :: clauses, by rw [ht, clauseTokens_cons, List.append_assoc], ?_, hrest⟩
    intro stop us hus
    have hfirst := hclause stop _ (hus.append (clauseTokens clauses))
    rw [clauseTokens_cons, List.append_assoc, readConditions_clause hfirst, hclauses stop us hus]
    rfl

end Clauses

section Steps

variable {stop : Nat} {ts rest : List Token}

theorem readBrackets_takes {predicate : Option (List Condition)}
    (h : readBrackets stop ts = .ok (predicate, rest)) : ∃ b : Option Brackets,
      ts = b.elim [] Brackets.tokens ++ rest ∧
        Takes readBrackets (b.elim [] Brackets.tokens) rest predicate := by
  unfold readBrackets at h
  split at h
  · next closed =>
    cases h
    refine ⟨none, rfl, fun stop us hus => ?_⟩
    have hopen := hus.follows (follows_of_take?_eq_none closed)
    simp [readBrackets, take?_eq_none hopen]
  · next t ts' opened =>
    obtain ⟨rfl, hopen⟩ := take?_eq_some_iff.1 opened
    split at h
    · cases h
    · next cs rest' heard =>
      obtain ⟨clauses, rfl, hclauses, -⟩ := readConditions_takes heard
      split at h
      · next u rest'' closed =>
        cases h
        obtain ⟨rfl, hclose⟩ := take?_eq_some_iff.1 closed
        refine ⟨some ⟨⟨t, hopen⟩, clauses, ⟨u, hclose⟩⟩, by simp [Brackets.tokens], ?_⟩
        intro stop us hus
        have hread := hclauses stop _ (hus.append [u])
        simp only [List.singleton_append] at hread
        simp [readBrackets, Brackets.tokens, take?, hopen, hclose, hread]
      · cases h

theorem readNamespace_takes (tag : String) (ts : List Token) : ∃ a : Option (Leaf .namespaceName),
    ts = optionalToken a ++ (readNamespace tag ts).2 ∧ ∀ us, Agree 2 (readNamespace tag ts).2 us →
      readNamespace tag (optionalToken a ++ us) = ((readNamespace tag ts).1, us) := by
  cases found : take? .namespaceName ts with
  | none =>
    refine ⟨none, by simp [readNamespace, found, optionalToken], fun us hus => ?_⟩
    simp only [readNamespace, found] at hus
    have hnone := hus.follows (follows_of_take?_eq_none found)
    simp [readNamespace, found, optionalToken, take?_eq_none hnone]
  | some r =>
    obtain ⟨t, rest⟩ := r
    obtain ⟨rfl, hk⟩ := take?_eq_some_iff.1 found
    refine ⟨some ⟨t, hk⟩, by simp [readNamespace, found, optionalToken], fun us _ => ?_⟩
    simp [readNamespace, optionalToken, take?, hk]

theorem readStep_takes {absolute : Bool} {s : Step} (h : readStep stop absolute ts = .ok (s, rest)) :
    ∃ tree : StepTree, ts = tree.tokens ++ rest ∧
      Takes (fun stop => readStep stop absolute) tree.tokens rest s := by
  unfold readStep at h
  obtain ⟨axis, hts, haxis⟩ := readAxis_sound ts
  simp only at h
  split at h
  · cases h
  · next tag ts₁ heard =>
    obtain ⟨test, htest, rfl⟩ := readNodeTest_eq_ok_iff.1 heard
    split at h
    · cases h
    · next predicate ts₂ heard' =>
      obtain ⟨brackets, hbrackets, hread⟩ := readBrackets_takes heard'
      obtain ⟨ns, hns, hname⟩ := readNamespace_takes (nodeTest test) ts₂
      cases h
      refine ⟨⟨axis, test, brackets, ns⟩, ?_, fun stop us hus => ?_⟩
      · simp only [StepTree.tokens, List.append_assoc, List.cons_append]
        rw [← hns, ← hbrackets, ← htest, ← hts]
      · have htest' (ts : List Token) :
            readNodeTest stop (eitherToken test :: ts) = .ok (nodeTest test, ts) :=
          readNodeTest_eq_ok_iff.2 ⟨test, rfl, rfl⟩
        have hbrackets' := hread stop (optionalToken ns ++ us) (by
          rw [hns]
          exact hus.append (optionalToken ns))
        simp only [StepTree.tokens, List.append_assoc, List.cons_append, readStep,
          readAxis_optional (follows_test _ _), htest', hbrackets', hname us hus, haxis]

end Steps
end WidgetLocator.Path
