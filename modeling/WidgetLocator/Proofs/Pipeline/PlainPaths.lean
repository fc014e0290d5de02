import WidgetLocator.Proofs.Path.RoundTrip
import WidgetLocator.Proofs.Path.Segment
import WidgetLocator.Proofs.Record.Chain

/-! Paths of the plain form in the full grammar. A segment with at most one pair of brackets is a
step of the full grammar as well, and both readers make the same of it. The full grammar has no
second pair of brackets, so there it looks for the next step and finds none. -/

namespace WidgetLocator.Path.Segment

open Text Token Grammar

/-- The values need no escapes and the positions can be stored. -/
structure Plain (s : Segment) : Prop where
  value : ∀ t ∈ s.test, '/' ∉ t.2.1 ∧ '\\' ∉ t.2.1
  position : ∀ d ∈ s.position, d.1.all Char.isDigit ∧ decimalValue d.1 < wordLimit

instance : DecidablePred Plain := fun _ =>
  decidable_of_iff (_ ∧ _) ⟨fun h => ⟨h.1, h.2⟩, fun h => ⟨h.value, h.position⟩⟩

def Double (s : Segment) : Prop := s.test.isSome ∧ s.position.isSome

instance : DecidablePred Double := fun _ => inferInstanceAs (Decidable (_ ∧ _))

def unplaced (s : Segment) : Segment := { s with position := none }

section Texts

variable {s : Segment}

theorem isNameStart_of_isWord {c : Char} (hc : isWord c) : isNameStart c := by
  have hne : ∀ d : Char, isWord d = false → c ≠ d := by
    rintro d hd rfl
    exact absurd hc (by simp [hd])
  simp (disch := decide) [isNameStart, isNameChar, isBlank, isSymbol, isQuote, hne]

theorem isName_word (w : Run isWord) : IsName (String.ofList w.1) :=
  isName_of_forall w.2.1 fun c hc => isNameStart_of_isWord (w.2.2 c hc)

theorem slash_notMem_run {p : Char → Bool} (hp : p '/' = false) (w : Run p) : '/' ∉ w.1 := by
  intro h
  have := w.2.2 '/' h
  simp [hp] at this

theorem Plain.slash_notMem_text (hs : s.Plain) : '/' ∉ s.text := by
  obtain ⟨tag, test, position⟩ := s
  have hword : isWord '/' = false := by decide
  have hdigit : isDigit '/' = false := by decide
  have htag := slash_notMem_run hword tag
  have htest : '/' ∉ test.elim [] testText := by
    cases test with
    | none => simp
    | some t => simp [testText, slash_notMem_run hword t.1, (hs.value t rfl).1]
  have hposition : '/' ∉ position.elim [] positionText := by
    cases position with
    | none => simp
    | some d => simp [positionText, slash_notMem_run hdigit d]
  simp [text, htag, htest, hposition]

theorem testText_eq_print {t : Run isWord × Run (· != '\'')} (ht : '\\' ∉ t.2.1) :
    testText t = printPredicate [condition t] := by
  have hescape : escape t.2.1 = t.2.1 := by
    refine escape_eq_self fun c hc => ?_
    rintro (rfl | rfl)
    · exact ht hc
    · exact absurd (t.2.2.2 _ hc) (by decide)
  simp [testText, condition, printPredicate, printCondition, hescape, Comparison.symbol]

theorem Double.text_eq (hs : s.Double) : ∃ d, s.position = some d ∧
    s.text = s.unplaced.text ++ positionText d := by
  obtain ⟨d, hd⟩ := Option.isSome_iff_exists.1 hs.2
  exact ⟨d, hd, by simp [text, unplaced, hd]⟩

theorem Plain.unplaced (hs : s.Plain) : s.unplaced.Plain :=
  ⟨hs.value, fun _ h => absurd h (by simp [Segment.unplaced])⟩

theorem not_double_unplaced (s : Segment) : ¬ s.unplaced.Double := by
  simp [Double, unplaced]

end Texts

section Tokens

variable {s : Segment} {after : List Char}

theorem readsAs_test {t : Run isWord × Run (· != '\'')} (ht : '\\' ∉ t.2.1) (after : List Char)
    (o : Nat) : ∃ b : Brackets, Grammar.conditions b.clauses = [condition t] ∧
      ReadsAs o (testText t) after b.tokens := by
  have hkey : ∀ c ∈ [condition t], c.WellFormed := by
    simpa [condition, Condition.WellFormed] using isName_word t.1
  rw [testText_eq_print ht]
  exact readsAs_predicate hkey after o

theorem readsAs_position {d : Run isDigit}
    (hd : d.1.all Char.isDigit ∧ decimalValue d.1 < wordLimit) (after : List Char) (o : Nat) :
    ∃ b : Brackets, Grammar.conditions b.clauses = [.position (place d)] ∧
      b.opening.1 = ⟨.openBracket, "[", o⟩ ∧ ReadsAs o (positionText d) after b.tokens := by
  have hstop : EndsName (']' :: after) := endsName_cons rfl (by decide)
  obtain ⟨clause, hclause, hreads⟩ := readsAs_number d.2.1 (List.all_eq_true.1 hd.1) hd.2 hstop (o + 1)
  have htokens : clauseTokens [clause] = clause.tokens := by simp [clauseTokens]
  rw [← htokens] at hreads
  obtain ⟨b, hb, hopening, hbrackets⟩ := readsAs_brackets hreads
  have hplace : place d = decimalValue d.1 := if_pos hd
  refine ⟨b, ?_, hopening, hbrackets⟩
  simp [hb, Grammar.conditions, hclause, hplace]

theorem readsAs_afterTag (hs : s.Plain) (single : ¬ s.Double) (after : List Char) (o : Nat) :
    ∃ b : Option Brackets,
      (∀ absolute, b.map (Grammar.conditions ·.clauses) = (s.step absolute).predicate) ∧
        ReadsAs o (s.test.elim [] testText ++ s.position.elim [] positionText) after
          (b.elim [] Brackets.tokens) := by
  obtain ⟨tag, test, position⟩ := s
  cases test with
  | none =>
    cases position with
    | none => exact ⟨none, fun _ => rfl, .nil⟩
    | some d =>
      obtain ⟨b, hb, -, hreads⟩ := readsAs_position (hs.position d rfl) after o
      exact ⟨some b, fun _ => congrArg some hb, hreads⟩
  | some t =>
    cases position with
    | none =>
      obtain ⟨b, hb, hreads⟩ := readsAs_test (hs.value t rfl).2 after o
      exact ⟨some b, fun _ => congrArg some hb, by simpa using hreads⟩
    | some d => exact absurd ⟨rfl, rfl⟩ single

theorem readsAs_segment (hs : s.Plain) (single : ¬ s.Double) (hafter : EndsName after) (o : Nat) :
    ∃ tree : StepTree, (∀ absolute, tree.step absolute = s.step absolute) ∧
      ReadsAs o s.text after tree.tokens := by
  have hstop : EndsName (s.test.elim [] testText ++ s.position.elim [] positionText ++ after) := by
    cases s.test with
    | some t => exact endsName_cons rfl (by decide)
    | none =>
      cases s.position with
      | some d => exact endsName_cons rfl (by decide)
      | none => exact hafter
  have htag := readsAs_name (o := o) (isName_word s.tag) hstop
  rw [String.toList_ofList] at htag
  obtain ⟨b, hb, hreads⟩ := readsAs_afterTag hs single after (o + String.utf8Len s.tag.1)
  refine ⟨⟨none, .inr ⟨⟨.tag, String.ofList s.tag.1, o⟩, rfl⟩, b, none⟩, fun absolute => ?_, ?_⟩
  · rw [StepTree.step, hb absolute]
    rfl
  · have := htag.append hreads
    simpa [text, StepTree.tokens, optionalToken, eitherToken] using this

def slashText (slash : Bool) : List Char := if slash then ['/'] else []

theorem readsAs_item (hs : s.Plain) (single : ¬ s.Double) (hafter : EndsName after) (slash : Bool)
    (o : Nat) : ∃ (u : Option { t : Leaf .slash // t.1.text ≠ "//" }) (tree : StepTree),
      (Item.step u tree).meaning = s.step slash ∧
        ReadsAs o (slashText slash ++ s.text) after (Item.step u tree).tokens := by
  obtain ⟨tree, htree, hreads⟩ := readsAs_segment hs single hafter (o + String.utf8Len (slashText slash))
  cases slash with
  | false => exact ⟨none, tree, htree false, hreads⟩
  | true =>
    obtain ⟨c, v, htext, hc⟩ := s.exists_text_head
    have next : (s.text ++ after).head? ≠ some '/' := by
      rw [htext, List.cons_append, List.head?_cons]
      rintro ⟨⟩
      exact absurd hc (by decide)
    exact ⟨some (singleSlash o), tree, htree true, readsAs_slashed hreads next⟩

theorem brackets_ne_none (hs : s.Double) {slash : Bool}
    {u : Option { t : Leaf .slash // t.1.text ≠ "//" }} {tree : StepTree}
    (h : (Item.step u tree).meaning = s.unplaced.step slash) : tree.brackets ≠ none := by
  intro hnone
  obtain ⟨t, ht⟩ := Option.isSome_iff_exists.1 hs.1
  have hpredicate := congrArg Step.predicate h
  simp [Item.meaning, StepTree.step, hnone, step, conditions, unplaced, ht] at hpredicate

/-- The step of the first pair of brackets is over, and no step begins with the second pair. -/
theorem readsAs_double (hs : s.Plain) (double : s.Double) (slash : Bool) (o : Nat) (after : List Char) :
    ∃ ts, ReadsAs o (slashText slash ++ s.text) after ts ∧ (∀ us, EndsStep (ts ++ us)) ∧
      ∀ stop us, readSteps stop (ts ++ us) =
        .error (.noNodeTest (o + String.utf8Len (slashText slash ++ s.unplaced.text)) "'['") := by
  obtain ⟨d, hd, htext⟩ := double.text_eq
  have hstop : EndsName (positionText d ++ after) := endsName_cons rfl (by decide)
  obtain ⟨u, tree, hmeaning, hitem⟩ :=
    readsAs_item hs.unplaced (not_double_unplaced s) hstop slash o
  obtain ⟨b, -, hopening, hposition⟩ := readsAs_position (hs.position d hd) after
    (o + String.utf8Len (slashText slash ++ s.unplaced.text))
  have hbrackets := brackets_ne_none double hmeaning
  refine ⟨(Item.step u tree).tokens ++ b.tokens, ?_, fun us => ?_, fun stop us => ?_⟩
  · rw [htext, ← List.append_assoc]
    exact hitem.append hposition
  · rw [List.append_assoc]
    exact Item.endsStep _ _
  · rw [List.append_assoc, Brackets.tokens, List.cons_append, List.cons_append,
      readSteps_tree (StepTree.endsBefore_openBracket hbrackets b.opening _), readSteps_openBracket,
      hopening]
    rfl

end Tokens

section Rows

variable {ss : List Segment} {s : Segment}

def row (slash : Bool) : List Segment → List Char
  | [] => []
  | s :: ss => slashText slash ++ s.text ++ row true ss

/-- What the full grammar makes of a row that begins at the offset. -/
def verdict (slash : Bool) (o : Nat) : List Segment → Except ParseError (List Step)
  | [] => .ok []
  | s :: ss =>
    if s.Double then .error (.noNodeTest (o + String.utf8Len (slashText slash ++ s.unplaced.text)) "'['")
    else (verdict true (o + String.utf8Len (slashText slash ++ s.text)) ss).map (s.step slash :: ·)

theorem intercalate_eq_row (first : Segment) (rest : List Segment) :
    ['/'].intercalate ((first :: rest).map text) = first.text ++ row true rest := by
  induction rest generalizing first with
  | nil => simp [row]
  | cons s ss ih =>
    rw [List.map_cons, List.map_cons, List.intercalate_cons_cons, ← List.map_cons, ih]
    simp [row, slashText]

theorem path_eq_row (absolute : Bool) (hne : ss ≠ []) :
    path absolute ss = String.ofList (row absolute ss) := by
  obtain ⟨first, rest, rfl⟩ := List.exists_cons_of_ne_nil hne
  rw [path, intercalate_eq_row, row, List.append_assoc]
  rfl

theorem endsName_row (ss : List Segment) : EndsName (row true ss) := by
  cases ss with
  | nil => simp [row, EndsName]
  | cons s ss => exact endsName_cons rfl (by decide)

/-- The tokens of a row and what is read from them, segment by segment. After a segment with both
pairs of brackets the text is still cut into tokens, but none of them is read. -/
theorem readsAs_row (hss : ∀ s ∈ ss, s.Plain) (slash : Bool) (o : Nat) :
    ∃ ts, ReadsAs o (row slash ss) [] ts ∧ EndsStep ts ∧
      ∀ stop, readSteps stop ts = verdict slash o ss := by
  -- the tokens of the rest must not look like a second pair of brackets of the segment before it
  induction ss generalizing slash o with
  | nil => exact ⟨[], .nil, by simp [Follows], fun stop => by rw [readSteps, verdict]⟩
  | cons s ss ih =>
    obtain ⟨hs, hss⟩ := List.forall_mem_cons.1 hss
    obtain ⟨ts, hreads, hends, hread⟩ := ih hss true (o + String.utf8Len (slashText slash ++ s.text))
    rw [verdict]
    by_cases double : s.Double
    · obtain ⟨ts', hreads', hends', hread'⟩ := readsAs_double hs double slash o (row true ss)
      refine ⟨ts' ++ ts, ?_, hends' ts, fun stop => ?_⟩
      · rw [← List.append_nil (row true ss)] at hreads'
        exact hreads'.append hreads
      · rw [if_pos double, hread']
    · obtain ⟨u, tree, hmeaning, hitem⟩ := readsAs_item hs double (endsName_row ss) slash o
      refine ⟨(Item.step u tree).tokens ++ ts, ?_, Item.endsStep _ _, fun stop => ?_⟩
      · rw [← List.append_nil (row true ss)] at hitem
        exact hitem.append hreads
      · rw [if_neg double, readSteps_item hends, hmeaning, hread]

theorem verdict_of_singles (hss : ∀ s ∈ ss, ¬ s.Double) (o : Nat) :
    verdict true o ss = .ok (ss.map (·.step true)) := by
  induction ss generalizing o with
  | nil => rfl
  | cons s ss ih =>
    obtain ⟨hs, hss⟩ := List.forall_mem_cons.1 hss
    rw [verdict, if_neg hs, ih hss]
    rfl

theorem verdict_append {pre : List Segment} (hpre : ∀ r ∈ pre, ¬ r.Double) (hs : s.Double)
    (post : List Segment) (slash : Bool) (o : Nat) : verdict slash o (pre ++ s :: post) =
      .error (.noNodeTest (o + String.utf8Len (row slash (pre ++ [s.unplaced]))) "'['") := by
  induction pre generalizing slash o with
  | nil => simp [verdict, hs, row]
  | cons r pre ih =>
    obtain ⟨hr, hpre⟩ := List.forall_mem_cons.1 hpre
    rw [List.cons_append, verdict, if_neg hr, ih hpre, List.cons_append, row, Except.map]
    simp only [String.utf8Len_append, Nat.add_assoc]

theorem row_append (hs : s.Double) (pre post : List Segment) (slash : Bool) :
    ∃ after, row slash (pre ++ s :: post) = row slash (pre ++ [s.unplaced]) ++ '[' :: after := by
  induction pre generalizing slash with
  | nil =>
    obtain ⟨d, -, htext⟩ := hs.text_eq
    exact ⟨d.1 ++ ']' :: row true post, by simp [row, htext, positionText]⟩
  | cons r pre ih =>
    obtain ⟨after, h⟩ := ih true
    exact ⟨after, by simp [row, h]⟩

end Rows

section Agreement

variable (absolute : Bool) {ss : List Segment}

theorem parseExpression_path (hne : ss ≠ []) (hss : ∀ s ∈ ss, s.Plain) :
    parseExpression (path absolute ss) = (verdict absolute 0 ss).mapError .parse := by
  obtain ⟨ts, hreads, -, hread⟩ := readsAs_row hss absolute 0
  have hsource : ReadsAs 0 (path absolute ss).toList [] ts := by
    rwa [path_eq_row absolute hne, String.toList_ofList]
  obtain ⟨stop, hparse⟩ := parseExpression_of_readsAs hsource
  rw [hparse, hread]

/-- Without a second pair of brackets both readers make the same steps but for the slashes. -/
theorem parseExpression_of_singles {first : Segment} {rest : List Segment}
    (hplain : ∀ s ∈ first :: rest, s.Plain) (single : ∀ s ∈ first :: rest, ¬ s.Double) :
    parseExpression (path absolute (first :: rest)) =
      .ok (first.step absolute :: rest.map (·.step true)) := by
  obtain ⟨hfirst, hrest⟩ := List.forall_mem_cons.1 single
  rw [parseExpression_path absolute (by simp) hplain, verdict, if_neg hfirst, verdict_of_singles hrest]
  rfl

theorem parseExpression_of_double {pre post : List Segment} {s : Segment}
    (hplain : ∀ r ∈ pre ++ s :: post, r.Plain) (hpre : ∀ r ∈ pre, ¬ r.Double) (hs : s.Double) :
    parseExpression (path absolute (pre ++ s :: post)) =
      .error (.parse (.noNodeTest (path absolute (pre ++ [s.unplaced])).utf8ByteSize "'['")) := by
  rw [parseExpression_path absolute (by simp) hplain, verdict_append hpre hs,
    path_eq_row absolute (by simp), String.utf8ByteSize_ofList, Nat.zero_add]
  rfl

theorem path_append {s : Segment} (hs : s.Double) (pre post : List Segment) :
    ∃ after, path absolute (pre ++ s :: post) = path absolute (pre ++ [s.unplaced]) ++ "[" ++ after := by
  obtain ⟨after, hrow⟩ := row_append hs pre post absolute
  refine ⟨String.ofList after, ?_⟩
  rw [path_eq_row absolute (by simp), path_eq_row absolute (by simp), hrow]
  simp [← String.toList_inj]

/-- Steps that differ in their slashes only have the same locators and the same declarations. -/
theorem pipelines_agree {source : String} {steps : List Step} (h : parseExpression source = .ok steps)
    (hslashes : (segments source).map Step.relative = steps.map Step.relative) : ∃ records text,
    Pipeline.standard.locate source = .ok records ∧ Pipeline.segments.locate source = .ok records ∧
      Pipeline.standard.run source = .ok text ∧ Pipeline.segments.run source = .ok text := by
  have hrecords : Record.ofSteps .heuristic (segments source) = Record.ofSteps .heuristic steps := by
    rw [← Record.ofSteps_relative, hslashes, Record.ofSteps_relative]
  have hstandard : Pipeline.standard.locate source = .ok (Record.ofSteps .heuristic steps) := by
    rw [standard_locate, h]
    rfl
  have hplain : Pipeline.segments.locate source = .ok (Record.ofSteps .heuristic steps) :=
    congrArg Except.ok hrecords
  obtain ⟨text, hrender⟩ : ∃ text,
      Pipeline.standard.render (Record.ofSteps .heuristic steps) = .ok text := ⟨_, rfl⟩
  refine ⟨_, text, hstandard, hplain, ?_, ?_⟩
  · rw [Pipeline.run, hstandard]
    exact hrender
  · rw [Pipeline.run, hplain]
    exact hrender

theorem exists_first_double (h : ∃ s ∈ ss, s.Double) :
    ∃ pre s post, ss = pre ++ s :: post ∧ (∀ r ∈ pre, ¬ r.Double) ∧ s.Double := by
  obtain ⟨s, hs, double⟩ := h
  have hfind : (ss.find? (·.Double)).isSome := List.find?_isSome.2 ⟨s, hs, by simpa using double⟩
  obtain ⟨s, hs⟩ := Option.isSome_iff_exists.1 hfind
  obtain ⟨double, pre, post, rfl, hpre⟩ := List.find?_eq_some_iff_append.1 hs
  exact ⟨pre, s, post, rfl, by simpa using hpre, by simpa using double⟩

/-- The two readers on paths of the plain form. The reader of segments takes all of them. The full
grammar makes the same of a path whose segments have one pair of brackets at most, except that it
counts the slashes inside the path; so the locators and their declarations are the same. Otherwise it
stops at the second bracket of the first segment that has two pairs. -/
theorem readers_agree (absolute : Bool) (first : Segment) (rest : List Segment)
    (hplain : ∀ s ∈ first :: rest, s.Plain) :
    segments (path absolute (first :: rest)) = first.step absolute :: rest.map (·.step absolute) ∧
      ((∀ s ∈ first :: rest, ¬ s.Double) →
        parseExpression (path absolute (first :: rest)) =
            .ok (first.step absolute :: rest.map (·.step true)) ∧
          ∃ records text,
            Pipeline.standard.locate (path absolute (first :: rest)) = .ok records ∧
            Pipeline.segments.locate (path absolute (first :: rest)) = .ok records ∧
            Pipeline.standard.run (path absolute (first :: rest)) = .ok text ∧
            Pipeline.segments.run (path absolute (first :: rest)) = .ok text) ∧
      ((∃ s ∈ first :: rest, s.Double) → ∃ pre s post after,
        first :: rest = pre ++ s :: post ∧ (∀ r ∈ pre, ¬ r.Double) ∧ s.Double ∧
          path absolute (first :: rest) = path absolute (pre ++ [s.unplaced]) ++ "[" ++ after ∧
          parseExpression (path absolute (first :: rest)) =
            .error (.parse (.noNodeTest (path absolute (pre ++ [s.unplaced])).utf8ByteSize "'['"))) := by
  have hsegments : segments (path absolute (first :: rest)) =
      first.step absolute :: rest.map (·.step absolute) :=
    segments_path absolute (by simp) fun s hs => (hplain s hs).slash_notMem_text
  refine ⟨hsegments, fun single => ?_, fun double => ?_⟩
  · have hparse := parseExpression_of_singles absolute hplain single
    refine ⟨hparse, pipelines_agree hparse ?_⟩
    rw [hsegments]
    simp [Step.relative, step]
  · obtain ⟨pre, s, post, hsplit, hpre, hs⟩ := exists_first_double double
    rw [hsplit] at hplain ⊢
    obtain ⟨after, hpath⟩ := path_append absolute hs pre post
    exact ⟨pre, s, post, after, rfl, hpre, hs, hpath, parseExpression_of_double absolute hplain hpre hs⟩

/-- Zeros in front of a position, a value with a bracket and a quote in it, a letter of two bytes. -/
theorem readers_agree_brackets :
    (∃ first rest, path false (first :: rest) = "row[007]/2b[@x=']\"']" ∧
      (∀ s ∈ first :: rest, s.Plain) ∧ (∀ s ∈ first :: rest, ¬ s.Double) ∧
      parseExpression "row[007]/2b[@x=']\"']" = .ok
        [⟨"child", "row", some [.position 7], false⟩,
          ⟨"child", "2b", some [.test ⟨"x", .eq, "]\""⟩], true⟩] ∧
      ∃ text, Pipeline.standard.run "row[007]/2b[@x=']\"']" = .ok text ∧
        Pipeline.segments.run "row[007]/2b[@x=']\"']" = .ok text) ∧
      ∃ first rest, path true (first :: rest) = "/a[2]/é[@k='v'][03]/c" ∧
        (∀ s ∈ first :: rest, s.Plain) ∧ (∃ s ∈ first :: rest, s.Double) ∧
        segments "/a[2]/é[@k='v'][03]/c" =
          [⟨"child", "a", some [.position 2], true⟩,
            ⟨"child", "é", some [.test ⟨"k", .eq, "v"⟩, .position 3], true⟩,
            ⟨"child", "c", none, true⟩] ∧
        ∃ (pre : List Segment) (s : Segment), (path true (pre ++ [s.unplaced])).utf8ByteSize = 16 ∧
          parseExpression "/a[2]/é[@k='v'][03]/c" = .error (.parse (.noNodeTest 16 "'['")) := by
  constructor
  · obtain ⟨first, rest, hpath, hplain, single, hsteps⟩ : ∃ first rest,
        path false (first :: rest) = "row[007]/2b[@x=']\"']" ∧ (∀ s ∈ first :: rest, s.Plain) ∧
          (∀ s ∈ first :: rest, ¬ s.Double) ∧ first.step false :: rest.map (·.step true) =
            [⟨"child", "row", some [.position 7], false⟩,
              ⟨"child", "2b", some [.test ⟨"x", .eq, "]\""⟩], true⟩] :=
      ⟨⟨Run.of "row".toList (by decide), none, some (Run.of "007".toList (by decide))⟩,
        [⟨Run.of "2b".toList (by decide),
          some (Run.of "x".toList (by decide), Run.of "]\"".toList (by decide)), none⟩],
        by decide +kernel, by decide +kernel, by decide +kernel, by decide +kernel⟩
    obtain ⟨-, hsingle, -⟩ := readers_agree false first rest hplain
    obtain ⟨hparse, records, text, -, -, hstandard, hsegments⟩ := hsingle single
    rw [hpath] at hparse hstandard hsegments
    exact ⟨first, rest, hpath, hplain, single, hsteps ▸ hparse, text, hstandard, hsegments⟩
  · obtain ⟨first, rest, hpath, hplain, double, hsteps⟩ : ∃ first rest,
        path true (first :: rest) = "/a[2]/é[@k='v'][03]/c" ∧ (∀ s ∈ first :: rest, s.Plain) ∧
          (∃ s ∈ first :: rest, s.Double) ∧ first.step true :: rest.map (·.step true) =
            [⟨"child", "a", some [.position 2], true⟩,
              ⟨"child", "é", some [.test ⟨"k", .eq, "v"⟩, .position 3], true⟩,
              ⟨"child", "c", none, true⟩] :=
      ⟨⟨Run.of "a".toList (by decide), none, some (Run.of "2".toList (by decide))⟩,
        [⟨Run.of "é".toList (by decide +kernel),
            some (Run.of "k".toList (by decide), Run.of "v".toList (by decide)),
            some (Run.of "03".toList (by decide))⟩,
          ⟨Run.of "c".toList (by decide), none, none⟩],
        by decide +kernel, by decide +kernel, by decide +kernel, by decide +kernel⟩
    obtain ⟨hsegments, -, hdouble⟩ := readers_agree true first rest hplain
    obtain ⟨pre, s, post, after, -, -, -, -, hparse⟩ := hdouble double
    rw [hpath] at hsegments hparse
    have heval : parseExpression "/a[2]/é[@k='v'][03]/c" = .error (.parse (.noNodeTest 16 "'['")) := by
      decide +kernel
    have hoffset : (path true (pre ++ [s.unplaced])).utf8ByteSize = 16 := by
      simpa using hparse.symm.trans heval
    exact ⟨first, rest, hpath, hplain, double, hsteps ▸ hsegments, pre, s, hoffset, heval⟩

end Agreement

end WidgetLocator.Path.Segment
