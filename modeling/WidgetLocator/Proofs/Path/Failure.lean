import WidgetLocator.Proofs.Path.Lookahead

/-! Where reading fails. An error stands at the first token with which no path can go on: the tokens
before it begin some path, and it takes no more than this token and two others to know. Every reader
either takes the beginning of its part of a derivation and fails there, or hands on to the next. -/

namespace WidgetLocator.Path

open Text Grammar

/-- The reader fails after it has taken `taken`. The error names the next token, and does not change
with the tokens that come later than two places after that one. -/
structure FailsAfter {α : Type} (read : Nat → List Token → Except ParseError α) (stop : Nat)
    (taken rest : List Token) (e : ParseError) : Prop where
  offset : e.offset = offsetAt stop rest
  settled : ∀ stop' us, Agree 3 rest us → read stop' (taken ++ us) = .error e
  unclosed : ∀ offset found, e = .noClosingBracket offset found → rest = []

section Readers

variable {α β : Type} {stop : Nat} {t : Token} {ts taken rest : List Token} {e : ParseError}

/-- A reader that hands on to another after it has taken some tokens fails where that one fails. -/
theorem FailsAfter.after {read : Nat → List Token → Except ParseError α}
    {next : Nat → List Token → Except ParseError β} (h : FailsAfter next stop taken rest e)
    (before : List Token)
    (go : ∀ stop us, Agree 2 (taken ++ rest) us → next stop us = .error e →
      read stop (before ++ us) = .error e) :
    FailsAfter read stop (before ++ taken) rest e := by
  refine ⟨h.offset, fun stop' us hus => ?_, h.unclosed⟩
  rw [List.append_assoc]
  exact go stop' _ ((hus.mono (by omega)).append taken) (h.settled stop' us hus)

theorem expect_fails {k : Token.Kind} {expected : Expected} (h : expect stop k expected ts = .error e) :
    FailsAfter (fun stop => expect stop k expected) stop [] ts e := by
  unfold expect at h
  split at h
  · cases h
  · next missing =>
    cases h
    refine ⟨rfl, fun stop' us hus => ?_, by simp⟩
    have hnone := hus.follows (follows_of_take?_eq_none missing)
    obtain ⟨u, ts, us, rfl, rfl, -⟩ := hus.exists_cons
    simp [expect, take?_eq_none hnone, offsetAt, foundAt]

theorem readComparison_fails (h : readComparison stop ts = .error e) :
    FailsAfter readComparison stop [] ts e := by
  unfold readComparison at h
  split at h
  · next e' missing =>
    cases h
    refine (expect_fails missing).after [] fun stop us _ hus => ?_
    simp [readComparison, hus]
  · next t rest heard =>
    obtain ⟨rfl, hk⟩ := expect_eq_ok_iff.1 heard
    split at h
    · cases h
    · next unknown =>
      cases h
      refine ⟨rfl, fun stop' us hus => ?_, by simp⟩
      obtain ⟨us, rfl, -⟩ := hus.of_cons
      simp [readComparison, expect_eq_ok_iff.2 ⟨rfl, hk⟩, unknown]

end Readers

section Clauses

variable {stop : Nat} {t : Token} {ts : List Token} {e : ParseError}

def someLeaf (k : Token.Kind) : Leaf k := ⟨⟨k, "", 0⟩, rfl⟩

def equalsLeaf : OperatorLeaf := ⟨⟨.operator, "=", 0⟩, .eq, rfl, rfl⟩

/-- A bare test that has begun can only have the wrong operator. -/
theorem readBareTest_fails (bare : atBareTest (t :: ts)) (h : readBareTest stop (t :: ts) = .error e) :
    t.kind = .tag ∧ FailsAfter readBareTest stop [t] ts e := by
  rcases ts with _ | ⟨op, _ | ⟨value, ts⟩⟩
  · simp [atBareTest] at bare
  · simp [atBareTest] at bare
  · simp only [atBareTest, Bool.and_eq_true, beq_iff_eq, Bool.or_eq_true] at bare
    obtain ⟨⟨hname, -⟩, hvalue⟩ := bare
    have htest (stop : Nat) (us : List Token) : readBareTest stop (t :: us) =
        readComparison stop us >>= fun r => readBareValue stop r.2 >>= fun v =>
          .ok (.test ⟨t.text, r.1, v.1.text⟩, v.2) := by
      rw [readBareTest, expect_eq_ok_iff.2 ⟨rfl, hname⟩]
      rfl
    refine ⟨hname, ?_⟩
    rw [htest] at h
    rcases bind_eq_error_iff.1 h with failed | ⟨⟨op', ts'⟩, heard, h⟩
    · refine (readComparison_fails failed).after [t] fun stop us _ hus => ?_
      rw [List.singleton_append, htest]
      exact bind_eq_error_iff.2 (.inl hus)
    · obtain ⟨l, hl, -⟩ := readComparison_eq_ok_iff.1 heard
      obtain ⟨-, rfl⟩ := List.cons.inj hl
      have hread : ∃ v, readBareValue stop (value :: ts) = .ok (v, ts) := by
        rcases hvalue with hk | hk
        · exact ⟨_, readBareValue_eq_ok_iff.2 ⟨.inl ⟨value, hk⟩, rfl, rfl⟩⟩
        · exact ⟨_, readBareValue_eq_ok_iff.2 ⟨.inr ⟨value, hk⟩, rfl, rfl⟩⟩
      obtain ⟨v, hv⟩ := hread
      simp [hv, bind, Except.bind] at h

theorem readAttributeTest_fails (sign : Leaf .atSign) (h : readAttributeTest stop ts = .error e) :
    ∃ taken rest, ts = taken ++ rest ∧ FailsAfter readAttributeTest stop taken rest e ∧
      ∃ clause : Clause, sign.1 :: taken <+: clause.tokens := by
  rcases bind_eq_error_iff.1 h with failed | ⟨⟨name, ts₁⟩, hn, h₁⟩
  · refine ⟨[], ts, rfl, ?_, .quoted sign (someLeaf _) equalsLeaf (someLeaf _), ?_⟩
    · refine (expect_fails failed).after [] fun stop us _ hus => ?_
      exact bind_eq_error_iff.2 (.inl hus)
    · exact ⟨_, rfl⟩
  obtain ⟨rfl, hname⟩ := expect_eq_ok_iff.1 hn
  rcases bind_eq_error_iff.1 h₁ with failed | ⟨⟨op, ts₂⟩, ho, h₂⟩
  · refine ⟨[name], ts₁, rfl, ?_, .quoted sign ⟨name, hname⟩ equalsLeaf (someLeaf _), ?_⟩
    · refine (readComparison_fails failed).after [name] fun stop us _ hus => ?_
      exact bind_eq_error_iff.2 (.inr ⟨_, expect_eq_ok_iff.2 ⟨rfl, hname⟩,
        bind_eq_error_iff.2 (.inl hus)⟩)
    · exact ⟨_, rfl⟩
  obtain ⟨l, rfl, rfl⟩ := readComparison_eq_ok_iff.1 ho
  rcases bind_eq_error_iff.1 h₂ with failed | ⟨⟨value, ts₃⟩, hv, h₃⟩
  · refine ⟨[name, l.token], ts₂, rfl, ?_, .quoted sign ⟨name, hname⟩ l (someLeaf _), ?_⟩
    · refine (expect_fails failed).after [name, l.token] fun stop us _ hus => ?_
      exact bind_eq_error_iff.2 (.inr ⟨_, expect_eq_ok_iff.2 ⟨rfl, hname⟩,
        bind_eq_error_iff.2 (.inr ⟨_, readComparison_eq_ok_iff.2 ⟨l, rfl, rfl⟩,
          bind_eq_error_iff.2 (.inl hus)⟩)⟩)
    · exact ⟨_, rfl⟩
  · cases h₃

theorem readWord_error (h : readWord t = .error e) : e = .notACondition t.offset (foundAt [t]) := by
  unfold readWord at h
  split_ifs at h
  · split at h
    · cases h
    · exact (Except.error.inj h).symm
  · exact (Except.error.inj h).symm

theorem readClause_fails (h : readClause stop (t :: ts) = .error e) :
    ∃ taken rest, t :: ts = taken ++ rest ∧ FailsAfter readClause stop taken rest e ∧
      ∃ clause : Clause, taken <+: clause.tokens := by
  by_cases bare : atBareTest (t :: ts)
  · rw [readClause_bare bare, map_eq_error_iff] at h
    obtain ⟨hname, hfails⟩ := readBareTest_fails bare h
    refine ⟨[t], ts, rfl, ?_, .bare ⟨t, hname⟩ equalsLeaf (.inl (someLeaf _)), ⟨_, rfl⟩⟩
    refine ⟨hfails.offset, fun stop us hus => ?_, hfails.unclosed⟩
    have bare' : atBareTest (t :: us) := (atBareTest_of_agree (hus.mono (by omega))).trans bare
    exact (readClause_bare bare').trans (map_eq_error_iff.2 (hfails.settled stop us hus))
  by_cases hk : t.kind = .atSign
  · rw [readClause_sign hk, map_eq_error_iff] at h
    obtain ⟨taken, rest, rfl, hfails, hclause⟩ := readAttributeTest_fails ⟨t, hk⟩ h
    refine ⟨t :: taken, rest, rfl, hfails.after [t] fun stop us _ hus => ?_, hclause⟩
    exact (readClause_sign hk).trans (map_eq_error_iff.2 hus)
  · have noTest : atBareTest (t :: ts) = false := by simpa using bare
    rw [readClause_word noTest hk, map_eq_error_iff] at h
    refine ⟨[], t :: ts, rfl, ⟨?_, fun stop us hus => ?_, ?_⟩, .quoted (someLeaf _) (someLeaf _)
      equalsLeaf (someLeaf _), List.nil_prefix⟩
    · rw [readWord_error h]
      rfl
    · obtain ⟨us, rfl, hnext⟩ := hus.of_cons
      exact (readClause_word ((atBareTest_of_agree hnext).trans noTest) hk).trans (map_eq_error_iff.2 h)
    · rw [readWord_error h]
      simp

theorem readConditions_fails (h : readConditions stop ts = .error e) :
    ∃ taken rest, ts = taken ++ rest ∧ FailsAfter readConditions stop taken rest e ∧
      ∃ clauses, taken <+: clauseTokens clauses := by
  fun_induction readConditions stop ts generalizing e with
  | case1 => cases h
  | case2 => cases h
  | case3 t ts hk e' failed =>
    cases h
    have failed' : readClause stop (t :: ts) = .error e' := failed
    obtain ⟨taken, rest, ht, hfails, clause, hclause⟩ := readClause_fails failed'
    refine ⟨taken, rest, ht, hfails.after [] fun stop us hus hus' => ?_, [clause], ?_⟩
    · rw [← ht] at hus
      obtain ⟨us, rfl, -⟩ := hus.of_cons
      rw [List.nil_append, readConditions_turn (by simpa [Follows] using hk), hus']
    · simpa [clauseTokens] using hclause
  | case4 t ts hk c rest' heard e' failed ih =>
    cases h
    have heard' : readClause stop (t :: ts) = .ok (c, rest') := heard
    obtain ⟨clause, ht, hclause⟩ := readClause_takes heard'
    obtain ⟨taken, rest, rfl, hfails, clauses, hclauses⟩ := ih failed
    refine ⟨clause.tokens ++ taken, rest, by rw [ht, List.append_assoc], ?_, clause :: clauses, ?_⟩
    · refine hfails.after clause.tokens fun stop us hus hus' => ?_
      rw [readConditions_clause (hclause stop us hus), hus']
      rfl
    · rw [clauseTokens_cons]
      exact (List.prefix_append_right_inj _).2 hclauses
  | case5 => cases h

end Clauses

section Steps

variable {stop : Nat} {t : Token} {ts : List Token} {e : ParseError}

theorem readNodeTest_fails (h : readNodeTest stop ts = .error e) : FailsAfter readNodeTest stop [] ts e := by
  unfold readNodeTest at h
  split at h
  · cases h
  · next noWildcard =>
    split at h
    · cases h
    · next noTag =>
      cases h
      refine ⟨rfl, fun stop' us hus => ?_, by simp⟩
      have hwildcard := hus.follows (follows_of_take?_eq_none noWildcard)
      have htag := hus.follows (follows_of_take?_eq_none noTag)
      obtain ⟨u, ts, us, rfl, rfl, -⟩ := hus.exists_cons
      simp [readNodeTest, take?_eq_none hwildcard, take?_eq_none htag, offsetAt, foundAt]

/-- A bracket that is not closed is missed only where the tokens end. -/
theorem readBrackets_fails (h : readBrackets stop ts = .error e) :
    ∃ taken rest, ts = taken ++ rest ∧ FailsAfter readBrackets stop taken rest e ∧
      ∃ b : Brackets, taken <+: b.tokens := by
  unfold readBrackets at h
  split at h
  · cases h
  · next t ts' opened =>
    obtain ⟨rfl, hopen⟩ := take?_eq_some_iff.1 opened
    split at h
    · next e' failed =>
      cases h
      obtain ⟨taken, rest, rfl, hfails, clauses, hclauses⟩ := readConditions_fails failed
      refine ⟨t :: taken, rest, rfl, hfails.after [t] fun stop us _ hus => ?_,
        ⟨⟨t, hopen⟩, clauses, someLeaf _⟩, ?_⟩
      · simp [readBrackets, take?, hopen, hus]
      · rw [Brackets.tokens, List.cons_append, List.prefix_cons_inj]
        exact hclauses.trans (List.prefix_append _ _)
    · next cs rest heard =>
      obtain ⟨clauses, rfl, -, hrest⟩ := readConditions_takes heard
      split at h
      · cases h
      · next missing =>
        cases h
        obtain rfl := hrest.resolve_right (absurd missing)
        refine ⟨t :: clauseTokens clauses, [], rfl, ⟨rfl, ?_, fun _ _ _ => rfl⟩,
          ⟨⟨t, hopen⟩, clauses, someLeaf _⟩, ?_⟩
        · exact fun stop us hus => absurd hus not_agree_nil
        · exact List.prefix_append _ _

theorem exists_axis (ts : List Token) : ∃ (axis : Option (Leaf .axis)) (rest : List Token),
    ts = optionalToken axis ++ rest ∧ (axis = none → Follows [.axis] rest) := by
  cases found : take? .axis ts with
  | none => exact ⟨none, ts, rfl, fun _ => follows_of_take?_eq_none found⟩
  | some r =>
    obtain ⟨rfl, hk⟩ := take?_eq_some_iff.1 found
    exact ⟨some ⟨r.1, hk⟩, r.2, rfl, nofun⟩

theorem readStep_axis {absolute : Bool} {axis : Option (Leaf .axis)}
    (hts : axis = none → Follows [.axis] ts) : readStep stop absolute (optionalToken axis ++ ts) =
      match readNodeTest stop ts with
      | .error e => .error e
      | .ok (tag, ts) => (readBrackets stop ts).map fun (predicate, ts) =>
        let (tag, ts) := readNamespace tag ts
        (⟨axis.elim "child" (·.1.text), tag, predicate, absolute⟩, ts) := by
  have haxis : readAxis (optionalToken axis ++ ts) = (axis.elim "child" (·.1.text), ts) := by
    cases axis with
    | none => exact readAxis_optional (a := none) (hts rfl)
    | some t => simp [readAxis, optionalToken]
  simp only [readStep, haxis]
  cases readNodeTest stop ts with
  | error e => rfl
  | ok r => cases h : readBrackets stop r.2 <;> simp [h, Except.map]

theorem readStep_fails {absolute : Bool} (h : readStep stop absolute ts = .error e) :
    ∃ taken rest, ts = taken ++ rest ∧
      FailsAfter (fun stop => readStep stop absolute) stop taken rest e ∧
      ∃ tree : StepTree, taken <+: tree.tokens := by
  obtain ⟨axis, ts, rfl, hts⟩ := exists_axis ts
  rw [readStep_axis hts] at h
  split at h
  · next e' failed =>
    cases h
    refine ⟨optionalToken axis ++ [], ts, by simp, ?_, ⟨axis, .inl (someLeaf _), none, none⟩, ?_⟩
    · refine (readNodeTest_fails failed).after (optionalToken axis) fun stop us hus hus' => ?_
      exact (readStep_axis fun hnone => hus.follows (hts hnone)).trans (by rw [hus'])
    · rw [List.append_nil, StepTree.tokens, List.append_assoc]
      exact List.prefix_append _ _
  · next tag ts' heard =>
    rw [map_eq_error_iff] at h
    obtain ⟨test, rfl, rfl⟩ := readNodeTest_eq_ok_iff.1 heard
    obtain ⟨taken, rest, rfl, hfails, b, hb⟩ := readBrackets_fails h
    refine ⟨(optionalToken axis ++ [eitherToken test]) ++ taken, rest, by simp, ?_,
      ⟨axis, test, some b, none⟩, ?_⟩
    · refine hfails.after (optionalToken axis ++ [eitherToken test]) fun stop us hus hus' => ?_
      have htest : readNodeTest stop (eitherToken test :: us) = .ok (nodeTest test, us) :=
        readNodeTest_eq_ok_iff.2 ⟨test, rfl, rfl⟩
      rw [List.append_assoc, List.singleton_append, readStep_axis fun _ => follows_test test us, htest]
      simp only [hus', Except.map]
    · simp only [StepTree.tokens, Option.elim_some, List.append_assoc, List.cons_append,
        List.prefix_append_right_inj, List.prefix_cons_inj]
      exact hb.trans (List.prefix_append _ _)

theorem readSteps_descendant_takes {rest : List Token} (opened : opening t ts = .descendant rest) :
    ∃ i : Item, t :: ts = i.tokens ++ rest ∧ ∀ stop us,
      readSteps stop (i.tokens ++ us) = (readSteps stop us).map (Step.descendantOrSelf :: ·) := by
  unfold opening at opened
  split_ifs at opened with hk double
  · cases opened
    have htext := (isDescendant_iff hk).1 double
    refine ⟨.doubleSlash ⟨t, hk⟩ htext, rfl, fun stop us => readSteps_descendant ?_⟩
    simp [opening, hk, double]
  · split at opened
    · next u rest' found =>
      cases opened
      obtain ⟨rfl, hu⟩ := take?_eq_some_iff.1 found
      have single := mt (isDescendant_iff hk).2 double
      refine ⟨.slashes ⟨t, hk⟩ single ⟨u, hu⟩, rfl, fun stop us => readSteps_descendant ?_⟩
      simp [opening, hk, double, take?, hu]
    · cases opened

theorem readSteps_step_takes {absolute : Bool} {ts' : List Token}
    (opened : opening t ts = .step absolute ts') :
    ∃ slash : Option { t : Leaf .slash // t.1.text ≠ "//" },
      t :: ts = optionalToken (slash.map (·.1)) ++ ts' ∧ ∀ stop us, Agree 1 ts' us →
        readSteps stop (optionalToken (slash.map (·.1)) ++ us) =
          readStep stop absolute us >>= fun (s, rest) => (readSteps stop rest).map (s :: ·) := by
  unfold opening at opened
  split_ifs at opened with hk double
  · split at opened
    · cases opened
    · next single =>
      cases opened
      refine ⟨some ⟨⟨t, hk⟩, mt (isDescendant_iff hk).2 double⟩, rfl, fun stop us hus => ?_⟩
      have hsingle := hus.follows (follows_of_take?_eq_none single)
      have opened' : opening t us = .step true us := by
        simp [opening, hk, double, take?_eq_none hsingle]
      simp only [Option.map_some, optionalToken, Option.toList_some, List.singleton_append,
        readSteps_cons, opened']
      cases readStep stop true us <;> rfl
  · cases opened
    refine ⟨none, rfl, fun stop us hus => ?_⟩
    obtain ⟨us, rfl, -⟩ := hus.of_cons
    have opened' : opening t us = .step false (t :: us) := by simp [opening, hk]
    simp only [Option.map_none, optionalToken, Option.toList_none, List.nil_append, readSteps_cons,
      opened']
    cases readStep stop false (t :: us) <;> rfl

theorem readSteps_fails (h : readSteps stop ts = .error e) :
    ∃ taken rest, ts = taken ++ rest ∧ FailsAfter readSteps stop taken rest e ∧
      ∃ d : Derivation, taken <+: tokens d := by
  fun_induction readSteps stop ts generalizing e with
  | case1 => cases h
  | case2 t ts rest' opened e' failed ih =>
    cases h
    obtain ⟨i, ht, hread⟩ := readSteps_descendant_takes opened
    obtain ⟨taken, rest, rfl, hfails, d, hd⟩ := ih failed
    refine ⟨i.tokens ++ taken, rest, by rw [ht, List.append_assoc], ?_, i :: d, ?_⟩
    · refine hfails.after i.tokens fun stop us _ hus => ?_
      rw [hread, map_eq_error_iff, hus]
    · rw [tokens, List.flatMap_cons]
      exact (List.prefix_append_right_inj _).2 hd
  | case3 => cases h
  | case4 t ts absolute ts' opened e' failed =>
    cases h
    obtain ⟨slash, ht, hread⟩ := readSteps_step_takes opened
    obtain ⟨taken, rest, rfl, hfails, tree, htree⟩ := readStep_fails failed
    refine ⟨optionalToken (slash.map (·.1)) ++ taken, rest, by rw [ht, List.append_assoc], ?_,
      [.step slash tree], ?_⟩
    · refine hfails.after _ fun stop us hus hus' => ?_
      rw [hread stop us (hus.mono (by omega))]
      exact bind_eq_error_iff.2 (.inl hus')
    · rw [tokens, List.flatMap_cons, List.flatMap_nil, List.append_nil, Item.tokens]
      exact (List.prefix_append_right_inj _).2 htree
  | case5 t ts absolute ts' opened s rest' heard e' failed ih =>
    cases h
    obtain ⟨slash, ht, hread⟩ := readSteps_step_takes opened
    obtain ⟨tree, rfl, htree⟩ := readStep_takes heard
    obtain ⟨taken, rest, rfl, hfails, d, hd⟩ := ih failed
    refine ⟨(Item.step slash tree).tokens ++ taken, rest, ?_, ?_, .step slash tree :: d, ?_⟩
    · rw [ht, Item.tokens, List.append_assoc, List.append_assoc]
    · refine hfails.after _ fun stop us hus hus' => ?_
      have hagree := (hus.append tree.tokens).mono (by omega : 1 ≤ 2)
      rw [Item.tokens, List.append_assoc, hread stop _ hagree]
      exact bind_eq_error_iff.2 (.inr ⟨_, htree stop us hus, map_eq_error_iff.2 hus'⟩)
    · rw [tokens, List.flatMap_cons]
      exact (List.prefix_append_right_inj _).2 hd
  | case6 => cases h

end Steps
end WidgetLocator.Path
