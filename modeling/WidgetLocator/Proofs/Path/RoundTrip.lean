import WidgetLocator.Proofs.Path.Printer
import WidgetLocator.Proofs.Pipeline.Reading

/-! Printing and reading are inverse to one another. The tokens of a printed step are those of a
derivation of the step, so well-formed steps are read as they were. In the other direction the texts
of tokens that were read from a source are names, axes and literals, and so every step that a source
spells is well-formed. -/

namespace WidgetLocator.Path

open Text Token Grammar

section Printed

variable {after : List Char}

theorem endsName_cons {c : Char} (hc : isNameChar c = false) (hcolon : c ≠ ':') :
    EndsName (c :: after) := by
  intro d hd
  obtain rfl := Option.some.inj hd
  exact ⟨by simp [hc], hcolon⟩

theorem readsAs_number {w : List Char} (hne : w ≠ []) (hw : ∀ c ∈ w, c.isDigit)
    (small : decimalValue w < wordLimit) (hafter : EndsName after) (o : Nat) :
    ∃ clause : Clause, clause.condition? = some (.position (decimalValue w)) ∧
      ReadsAs o w after clause.tokens := by
  have htake : (String.ofList w).toList.takeWhile Char.isDigit = w := by
    rw [String.toList_ofList, List.takeWhile_eq_self_iff.2 hw]
  have numeric : ∃ c ∈ (String.ofList w).toList.head?, c.isDigit := by
    obtain ⟨c, v, rfl⟩ := List.exists_cons_of_ne_nil hne
    exact ⟨c, by simp, hw c List.mem_cons_self⟩
  have hname := isName_of_forall hne fun c hc => isNameStart_of_isDigit (hw c hc)
  refine ⟨.position ⟨⟨.tag, String.ofList w, o⟩, rfl⟩ numeric (by rwa [htake]), ?_, ?_⟩
  · simp only [Clause.condition?, htake]
  · have hreads := readsAs_name (o := o) hname hafter
    rwa [String.toList_ofList] at hreads

theorem readsAs_condition {c : Condition} (hc : c.WellFormed) (hafter : EndsName after) (o : Nat) :
    ∃ clause : Clause, clause.condition? = some c ∧
      ReadsAs o (printCondition c) after clause.tokens := by
  cases c with
  | test t =>
    obtain ⟨name, op, value⟩ := t
    have hname : EndsName ((op.symbol.toList ++ ('\'' :: escape value.toList ++ ['\''])) ++ after) := by
      cases op <;> exact endsName_cons rfl (by decide)
    have hvalue := escape_mem_enclosed value.toList
    exact ⟨.quoted ⟨⟨.atSign, "@", o⟩, rfl⟩ ⟨⟨.tag, name, _⟩, rfl⟩
        ⟨⟨.operator, op.symbol, _⟩, op, rfl, rfl⟩
        ⟨⟨.literal, String.ofList (escape value.toList), _⟩, rfl⟩,
      by simp [Clause.condition?, unescape_escape],
      readsAs_sign.append ((readsAs_name hc hname).append
        ((readsAs_operator op).append (readsAs_literal hvalue)))⟩
  | position n =>
    have small : decimalValue (Nat.toDigits 10 n) < wordLimit := by rwa [decimalValue_toDigits]
    have hreads := readsAs_number Nat.toDigits_ne_nil isDigit_of_mem_toDigits small hafter o
    rwa [decimalValue_toDigits] at hreads

theorem readsAs_conditions {cs : List Condition} (hcs : ∀ c ∈ cs, c.WellFormed) (after : List Char)
    (o : Nat) : ∃ clauses : List Clause, conditions clauses = cs ∧
      ReadsAs o ([' '].intercalate (cs.map printCondition)) (']' :: after) (clauseTokens clauses) := by
  induction cs generalizing o with
  | nil => exact ⟨[], rfl, .nil⟩
  | cons c cs ih =>
    obtain ⟨hc, hcs⟩ := List.forall_mem_cons.1 hcs
    cases cs with
    | nil =>
      have hstop : EndsName (']' :: after) := endsName_cons rfl (by decide)
      obtain ⟨clause, hclause, hreads⟩ := readsAs_condition hc hstop o
      refine ⟨[clause], by simp [conditions, hclause], ?_⟩
      simpa [clauseTokens] using hreads
    | cons d cs =>
      have hstop : EndsName ([' '] ++ [' '].intercalate ((d :: cs).map printCondition) ++
          ']' :: after) := endsName_cons rfl (by decide)
      obtain ⟨clause, hclause, hreads⟩ := readsAs_condition hc hstop o
      obtain ⟨clauses, hclauses, hrest⟩ := ih hcs (o + String.utf8Len (printCondition c) + ' '.utf8Size)
      refine ⟨clause :: clauses, ?_, ?_⟩
      · rw [← hclauses]
        simp [conditions, hclause]
      · exact hreads.append (hrest.cons_blank rfl)

theorem readsAs_brackets {clauses : List Clause} {cs : List Char} {o : Nat}
    (h : ReadsAs (o + 1) cs (']' :: after) (clauseTokens clauses)) :
    ∃ b : Brackets, b.clauses = clauses ∧ b.opening.1 = ⟨.openBracket, "[", o⟩ ∧
      ReadsAs o ('[' :: (cs ++ [']'])) after b.tokens :=
  ⟨⟨⟨⟨.openBracket, "[", o⟩, rfl⟩, clauses, ⟨⟨.closeBracket, "]", _⟩, rfl⟩⟩, rfl, rfl,
    readsAs_openBracket.append (h.append readsAs_closeBracket)⟩

theorem readsAs_predicate {cs : List Condition} (hcs : ∀ c ∈ cs, c.WellFormed) (after : List Char)
    (o : Nat) : ∃ b : Brackets, conditions b.clauses = cs ∧
      ReadsAs o (printPredicate cs) after b.tokens := by
  obtain ⟨clauses, hclauses, hreads⟩ := readsAs_conditions hcs after (o + 1)
  obtain ⟨b, rfl, -, hb⟩ := readsAs_brackets hreads
  exact ⟨b, hclauses, hb⟩

theorem readsAs_tag {tag : String} (h : tag = "*" ∨ IsName tag) (hafter : EndsName after) (o : Nat) :
    ∃ test : Leaf .wildcard ⊕ Leaf .tag, nodeTest test = tag ∧
      ReadsAs o tag.toList after [eitherToken test] := by
  rcases h with rfl | h
  · exact ⟨.inl ⟨⟨.wildcard, "*", o⟩, rfl⟩, rfl, readsAs_wildcard⟩
  · exact ⟨.inr ⟨⟨.tag, tag, o⟩, rfl⟩, rfl, readsAs_name h hafter⟩

theorem readsAs_optional {predicate : Option (List Condition)}
    (h : ∀ c ∈ predicate.getD [], c.WellFormed) (after : List Char) (o : Nat) :
    ∃ b : Option Brackets, b.map (conditions ·.clauses) = predicate ∧
      ReadsAs o (predicate.elim [] printPredicate) after (b.elim [] Brackets.tokens) := by
  cases predicate with
  | none => exact ⟨none, rfl, .nil⟩
  | some cs =>
    obtain ⟨b, hb, hreads⟩ := readsAs_predicate h after o
    exact ⟨some b, congrArg some hb, hreads⟩

theorem readsAs_tree {s : Step} (hs : s.WellFormed) (hafter : EndsName after) (o : Nat) :
    ∃ tree : StepTree, tree.step s.absolute = s ∧
      ReadsAs o (s.axis.toList ++ [':', ':'] ++ (s.tag.toList ++ s.predicate.elim [] printPredicate))
        after tree.tokens := by
  have hstop : EndsName (s.predicate.elim [] printPredicate ++ after) := by
    cases s.predicate with
    | none => exact hafter
    | some cs => exact endsName_cons rfl (by decide)
  obtain ⟨test, htest, htag⟩ :=
    readsAs_tag hs.tag hstop (o + String.utf8Len (s.axis.toList ++ [':', ':']))
  obtain ⟨b, hb, hbrackets⟩ := readsAs_optional hs.conditions after
    (o + String.utf8Len (s.axis.toList ++ [':', ':']) + String.utf8Len s.tag.toList)
  refine ⟨⟨some ⟨⟨.axis, s.axis, o⟩, rfl⟩, test, b, none⟩, ?_, ?_⟩
  · simp [StepTree.step, htest, hb]
  · have := (readsAs_axis hs.axis).append (htag.append hbrackets)
    simpa [StepTree.tokens, optionalToken] using this

def singleSlash (o : Nat) : { t : Leaf .slash // t.1.text ≠ "//" } :=
  ⟨⟨⟨.slash, "/", o⟩, rfl⟩, fun h : "/" = "//" => absurd h (by decide)⟩

/-- A slash makes the step after it absolute, unless another slash comes first. -/
theorem readsAs_slashed {tree : StepTree} {cs : List Char} {o : Nat}
    (h : ReadsAs (o + 1) cs after tree.tokens) (next : (cs ++ after).head? ≠ some '/') :
    ReadsAs o ('/' :: cs) after (Item.step (some (singleSlash o)) tree).tokens :=
  (readsAs_slash next).append h

theorem readsAs_step {s : Step} (hs : s.WellFormed) (hafter : EndsName after) (o : Nat) :
    ∃ i : Item, i.meaning = s ∧ ReadsAs o (printStep s) after i.tokens := by
  obtain ⟨tree, htree, hreads⟩ := readsAs_tree hs hafter (o + 1)
  rw [printStep]
  cases h : s.absolute with
  | false =>
    rw [h] at htree
    exact ⟨.step none tree, htree, hreads.cons_blank rfl⟩
  | true =>
    rw [h] at htree
    obtain ⟨⟨c, hc, hstart⟩, -⟩ := mem_axisRun.1 hs.axis
    obtain ⟨v, haxis⟩ := List.head?_eq_some_iff.1 hc
    have single : c ≠ '/' := by
      rintro rfl
      exact absurd hstart (by decide)
    exact ⟨.step (some (singleSlash o)) tree, htree,
      readsAs_slashed hreads (by simp [haxis, single])⟩

theorem readsAs_steps {ss : List Step} (hss : ∀ s ∈ ss, s.WellFormed) (o : Nat) :
    ∃ d : Derivation, steps d = ss ∧ ReadsAs o (ss.flatMap printStep) [] (tokens d) := by
  induction ss generalizing o with
  | nil => exact ⟨[], rfl, .nil⟩
  | cons s ss ih =>
    obtain ⟨hs, hss⟩ := List.forall_mem_cons.1 hss
    have hstop : EndsName (ss.flatMap printStep ++ []) := by
      cases ss with
      | nil => simp [EndsName]
      | cons s' ss =>
        rw [List.flatMap_cons, printStep]
        cases s'.absolute <;> exact endsName_cons rfl (by decide)
    obtain ⟨i, hi, hreads⟩ := readsAs_step hs hstop o
    obtain ⟨d, hd, hrest⟩ := ih hss (o + String.utf8Len (printStep s))
    refine ⟨i :: d, ?_, hreads.append hrest⟩
    rw [← hi, ← hd]
    rfl

end Printed

theorem parseExpression_print {ss : List Step} (hss : ∀ s ∈ ss, s.WellFormed) :
    parseExpression (print ss) = .ok ss := by
  obtain ⟨d, rfl, hreads⟩ := readsAs_steps hss 0
  rw [← String.toList_ofList (l := (steps d).flatMap printStep)] at hreads
  obtain ⟨stop, h⟩ := parseExpression_of_readsAs hreads
  rw [print, h, readSteps_complete]
  rfl

section Parsed

theorem isName_of_found {t : Token} (ht : Found t) (hk : t.kind = .tag) : IsName t.text := by
  obtain ⟨p, w, hw, hkind, htext⟩ := ht
  rcases Pattern.name_or_colons_of_kind (hkind.trans hk) with rfl | rfl
  · exact .inl (htext ▸ hw)
  · exact .inr (htext ▸ hw)

theorem axisRun_of_found {t : Token} (ht : Found t) (hk : t.kind = .axis) :
    t.text.toList ∈ axisRun := by
  obtain ⟨p, w, hw, hkind, htext⟩ := ht
  obtain rfl := Pattern.eq_axis_of_kind (hkind.trans hk)
  obtain ⟨r, hr, rfl⟩ := mem_axis.1 hw
  rw [← htext, Pattern.text_axis]
  exact hr

theorem not_namespace_of_found {t : Token} (ht : Found t) : t.kind ≠ .namespaceName := by
  obtain ⟨p, w, -, hkind, -⟩ := ht
  rw [← hkind]
  exact p.kind_ne.2

theorem clause_wellFormed {clause : Clause} (h : ∀ t ∈ clause.tokens, Found t) {c : Condition}
    (hc : clause.condition? = some c) : c.WellFormed := by
  cases clause with
  | bare name op value =>
    obtain rfl := Option.some.inj hc
    exact isName_of_found (h name.1 (by simp [Clause.tokens])) name.2
  | quoted sign name op value =>
    obtain rfl := Option.some.inj hc
    exact isName_of_found (h name.1 (by simp [Clause.tokens])) name.2
  | position t numeric small =>
    obtain rfl := Option.some.inj hc
    exact small
  | connective t word => cases hc

theorem axisRun_child : "child".toList ∈ axisRun :=
  mem_axisRun.2 ⟨⟨'c', rfl, by decide⟩, List.all_eq_true.1 (by decide)⟩

theorem axisRun_descendantOrSelf : "descendant-or-self".toList ∈ axisRun :=
  mem_axisRun.2 ⟨⟨'d', rfl, by decide⟩, List.all_eq_true.1 (by decide)⟩

theorem tree_wellFormed {tree : StepTree} (h : ∀ t ∈ tree.tokens, Found t) (absolute : Bool) :
    (tree.step absolute).WellFormed := by
  obtain ⟨axis, test, brackets, ns⟩ := tree
  simp only [StepTree.tokens, List.mem_append, List.mem_cons] at h
  refine ⟨?_, ?_, ?_⟩
  · cases axis with
    | none => exact axisRun_child
    | some t => exact axisRun_of_found (h t.1 (by simp [optionalToken])) t.2
  · cases ns with
    | some t => exact absurd t.2 (not_namespace_of_found (h t.1 (by simp [optionalToken])))
    | none =>
      cases test with
      | inl t => exact .inl rfl
      | inr t => exact .inr (isName_of_found (h t.1 (by simp [eitherToken])) t.2)
  · cases brackets with
    | none => simp [StepTree.step, Step.conditions]
    | some b =>
      intro c hc
      obtain ⟨clause, hclause, hc'⟩ := List.mem_filterMap.1 hc
      refine clause_wellFormed (fun t ht => h t (.inl (.inr (.inr ?_)))) hc'
      have hmem : t ∈ clauseTokens b.clauses := List.mem_flatMap.2 ⟨clause, hclause, ht⟩
      simp [Brackets.tokens, hmem]

theorem steps_wellFormed {d : Derivation} (h : ∀ t ∈ tokens d, Found t) :
    ∀ s ∈ steps d, s.WellFormed := by
  intro s hs
  obtain ⟨i, hi, rfl⟩ := List.mem_map.1 hs
  have hi' : ∀ t ∈ i.tokens, Found t := fun t ht => h t (List.mem_flatMap.2 ⟨i, hi, ht⟩)
  cases i with
  | doubleSlash | slashes =>
    exact ⟨axisRun_descendantOrSelf, .inl rfl, by simp [Item.meaning, Step.conditions]⟩
  | step slash tree => exact tree_wellFormed (fun t ht => hi' t (by simp [Item.tokens, ht])) _

theorem wellFormed_of_parseExpression {source : String} {ss : List Step}
    (h : parseExpression source = .ok ss) : ∀ s ∈ ss, s.WellFormed := by
  obtain ⟨ts, hts, hparse⟩ := parseExpression_eq_ok_iff.1 h
  rw [parse_eq] at hparse
  obtain ⟨d, hd, rfl⟩ := readSteps_sound hparse
  exact steps_wellFormed (hd ▸ (body_of_tokenize hts).2)

/-- Nothing is lost in print: well-formed steps are read as they were printed, and every source that
can be read spells such steps. -/
theorem parseExpression_round_trip :
    (∀ ss : List Step, (∀ s ∈ ss, s.WellFormed) → parseExpression (print ss) = .ok ss) ∧
      ∀ (source : String) (ss : List Step), parseExpression source = .ok ss →
        (∀ s ∈ ss, s.WellFormed) ∧ parseExpression (print ss) = .ok ss := by
  refine ⟨fun ss hss => parseExpression_print hss, fun source ss h => ?_⟩
  have hss := wellFormed_of_parseExpression h
  exact ⟨hss, parseExpression_print hss⟩

/-- A path with a bare test after a connective, with quotes of both kinds and with no axes. -/
theorem parseExpression_round_trip_escapes : ∃ ss : List Step,
    parseExpression "ns:a[@x:y!='it\\'s \\\\ é\n' and 007 or: >= \"q'\\\"\"]//b::c'd[]" = .ok ss ∧
      (∀ s ∈ ss, s.WellFormed) ∧ parseExpression (print ss) = .ok ss := by
  have h : parseExpression "ns:a[@x:y!='it\\'s \\\\ é\n' and 007 or: >= \"q'\\\"\"]//b::c'd[]" = .ok
      [⟨"child", "ns:a",
          some [.test ⟨"x:y", .ne, "it's \\ é\n"⟩, .position 7, .test ⟨"or:", .ge, "q'\\\""⟩], false⟩,
        ⟨"descendant-or-self", "*", none, true⟩, ⟨"b", "c'd", some [], false⟩] := by decide +kernel
  have hss := (parseExpression_round_trip.2 _ _ h).1
  exact ⟨_, h, hss, parseExpression_round_trip.1 _ hss⟩

end Parsed

end WidgetLocator.Path
