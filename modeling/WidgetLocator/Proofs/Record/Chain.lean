import WidgetLocator.Proofs.Pipeline.Reading
import WidgetLocator.Proofs.Record.Identifier

/-! The locators of a path. The identifier of each one is that of the path up to its step, so the
locators form a chain in which every identifier is the one before it, an underscore and something
more. Nothing in a path but the tags, their archetypes and the names and values of the tests can be
seen in an identifier. -/

namespace WidgetLocator

open Identifier

/-- The step with everything at its default that identifiers do not show. -/
def Step.named (s : Step) : Step where
  axis := Step.defaultAxis
  tag := s.tag
  predicate := some (s.tests.map fun t => .test { t with op := .eq })
  absolute := false

def Step.relative (s : Step) : Step := { s with absolute := false }

namespace Record

def conditionWords : Condition → List String
  | .test t => [t.name, t.value]
  | .position _ => []

/-- The words of a step: its tag, the label of the tag, and the words of its conditions. -/
def words (classify : Classifier) (s : Step) : List String :=
  (if s.tag = "*" then "any" else s.tag) :: classify s.tag :: s.conditions.flatMap conditionWords

def pathId (classify : Classifier) (steps : List Step) : String :=
  canonical ("_".intercalate (steps.flatMap (words classify)))

def wordRuns (classify : Classifier) (s : Step) : List (List Char) :=
  (words classify s).flatMap fun w => runs w.toList

section Paths

variable {classify : Classifier} {steps xs ys : List Step} {s : Step}

theorem tests_flatMap (s : Step) :
    (s.tests.flatMap fun t => [t.name, t.value]) = s.conditions.flatMap conditionWords := by
  rw [Step.tests]
  induction s.conditions with
  | nil => rfl
  | cons c conditions ih =>
    cases c with
    | test t => simp [Condition.test?, conditionWords, ih]
    | position n => rwa [List.filterMap_cons_none (by rfl), List.flatMap_cons]

theorem pieces_eq_words (classify : Classifier) (s : Step) : pieces classify s = words classify s := by
  rw [pieces, words, tests_flatMap]
  simp [Step.isWildcard, Step.wildcard]

theorem identifier_eq_spell (parent : String) :
    identifier classify parent s = spell (runs parent.toList ++ wordRuns classify s) := by
  rw [identifier, pieces_eq_words, canonical_eq_spell, runs_join, wordRuns]
  by_cases hp : parent = ""
  · subst hp
    simp
  · simp [hp]

theorem pathId_eq_spell (steps : List Step) :
    pathId classify steps = spell (steps.flatMap (wordRuns classify)) := by
  rw [pathId, canonical_eq_spell, runs_join, List.flatMap_assoc]
  rfl

theorem isRun_of_mem_wordRuns {r : List Char} (hr : r ∈ wordRuns classify s) : IsRun r := by
  obtain ⟨w, -, hw⟩ := List.mem_flatMap.1 hr
  exact isRun_of_mem_runs hw

theorem isRun_of_mem_steps {r : List Char} (hr : r ∈ steps.flatMap (wordRuns classify)) :
    IsRun r := by
  obtain ⟨s, -, hs⟩ := List.mem_flatMap.1 hr
  exact isRun_of_mem_wordRuns hs

theorem runs_pathId (steps : List Step) :
    runs (pathId classify steps).toList = steps.flatMap (wordRuns classify) := by
  rw [pathId_eq_spell, runs_spell fun _ => isRun_of_mem_steps]

theorem identifier_pathId (xs : List Step) (s : Step) :
    identifier classify (pathId classify xs) s = pathId classify (xs ++ [s]) := by
  rw [identifier_eq_spell, runs_pathId, pathId_eq_spell]
  simp

theorem chain_append (before xs ys : List Step) :
    chain classify (pathId classify before) (xs ++ ys) =
      chain classify (pathId classify before) xs ++ chain classify (pathId classify (before ++ xs)) ys := by
  induction xs generalizing before with
  | nil => simp [chain]
  | cons s xs ih =>
    have hid : (ofStep classify (pathId classify before) s).id = pathId classify (before ++ [s]) :=
      identifier_pathId before s
    simp only [List.cons_append, chain, hid, ih, List.append_assoc, List.nil_append]

theorem chain_getElem? (before steps : List Step) (i : Nat) :
    (chain classify (pathId classify before) steps)[i]? =
      steps[i]?.map (ofStep classify (pathId classify (before ++ steps.take i))) := by
  induction steps generalizing before i with
  | nil => simp [chain]
  | cons s steps ih =>
    have hid : (ofStep classify (pathId classify before) s).id = pathId classify (before ++ [s]) :=
      identifier_pathId before s
    cases i with
    | zero => simp [chain]
    | succ i => simp [chain, hid, ih]

theorem ofSteps_eq_chain (classify : Classifier) (steps : List Step) :
    ofSteps classify steps = chain classify (pathId classify []) steps := rfl

theorem length_ofSteps (classify : Classifier) (steps : List Step) :
    (ofSteps classify steps).length = steps.length := by
  suffices h : ∀ parent, (chain classify parent steps).length = steps.length from h ""
  induction steps with
  | nil => intro parent; rfl
  | cons s steps ih => intro parent; simp [chain, ih]

theorem ofSteps_getElem? {i : Nat} {r : Record} (h : (ofSteps classify steps)[i]? = some r) :
    i < steps.length ∧ r.id = pathId classify (steps.take (i + 1)) ∧
      r.container = pathId classify (steps.take i) := by
  rw [ofSteps_eq_chain, chain_getElem?] at h
  obtain ⟨s, hs, rfl⟩ := Option.map_eq_some_iff.1 h
  have hlt : i < steps.length := (List.getElem?_eq_some_iff.1 hs).1
  have htake : steps.take (i + 1) = steps.take i ++ [s] := by
    rw [List.take_add_one, hs, Option.toList_some]
  refine ⟨hlt, ?_, rfl⟩
  rw [htake, ← identifier_pathId]
  rfl

theorem words_named (classify : Classifier) (s : Step) : words classify s.named = words classify s := by
  have htests : s.named.tests = s.tests.map fun t => { t with op := .eq } := by
    simp [Step.tests, Step.named, Step.conditions, List.filterMap_map, Function.comp_def, Condition.test?]
  have htag : s.named.isWildcard = s.isWildcard := rfl
  rw [← pieces_eq_words, ← pieces_eq_words, pieces, pieces, htests, htag, List.flatMap_map]
  rfl

theorem chain_named (parent : String) (steps : List Step) :
    (chain classify parent (steps.map Step.named)).map (fun r => (r.id, r.container)) =
      (chain classify parent steps).map fun r => (r.id, r.container) := by
  induction steps generalizing parent with
  | nil => rfl
  | cons s steps ih =>
    have hid : identifier classify parent s.named = identifier classify parent s := by
      rw [identifier, identifier, pieces_eq_words, pieces_eq_words, words_named]
    simp [chain, ofStep, hid, ih]

/-- What changes no locator of a single step changes none of a path. -/
theorem ofSteps_map {f : Step → Step} (hf : ∀ parent s, ofStep classify parent (f s) = ofStep classify parent s)
    (steps : List Step) : ofSteps classify (steps.map f) = ofSteps classify steps := by
  suffices h : ∀ parent, chain classify parent (steps.map f) = chain classify parent steps from h ""
  induction steps with
  | nil => intro parent; rfl
  | cons s steps ih =>
    intro parent
    simp only [List.map_cons, chain, hf, ih]

theorem ofSteps_relative (classify : Classifier) (steps : List Step) :
    ofSteps classify (steps.map Step.relative) = ofSteps classify steps :=
  ofSteps_map (f := Step.relative) (fun _ _ => rfl) steps

/-- The identifiers that are made step by step are those of the paths up to each step read as a
whole. So what comes after a step changes no locator before it, and the axis, the slash, the
comparisons and the positions change no identifier. -/
theorem ofSteps_read_as_whole (classify : Classifier) (steps : List Step) :
    (ofSteps classify steps).map (·.id) =
        (List.range steps.length).map (fun i => pathId classify (steps.take (i + 1))) ∧
      (∀ later, (ofSteps classify (steps ++ later)).take steps.length = ofSteps classify steps) ∧
      (ofSteps classify (steps.map Step.named)).map (fun r => (r.id, r.container)) =
        (ofSteps classify steps).map fun r => (r.id, r.container) := by
  refine ⟨?_, fun later => ?_, chain_named "" steps⟩
  · refine List.ext_getElem? fun i => ?_
    rw [List.getElem?_map, List.getElem?_map]
    by_cases hi : i < steps.length
    · have hlen : i < (ofSteps classify steps).length := by rwa [length_ofSteps]
      have hr := List.getElem?_eq_getElem hlen
      rw [hr, List.getElem?_range hi, Option.map_some, Option.map_some, (ofSteps_getElem? hr).2.1]
    · rw [List.getElem?_eq_none (by rw [length_ofSteps]; omega),
        List.getElem?_eq_none (by rw [List.length_range]; omega)]
      rfl
  · have hlen := length_ofSteps classify steps
    rw [ofSteps_eq_chain, chain_append, ← ofSteps_eq_chain, ← hlen, List.take_left]

end Paths

def Precedes (r r' : Record) : Prop :=
  r'.container = r.id ∧ ∃ u, u ≠ "" ∧ IsIdentifier u ∧ r'.id = r.id ++ "_" ++ u

/-- The locators of one path, by their places in it. -/
structure Linked (records : List Record) : Prop where
  identifiers : ∀ r ∈ records, r.id ≠ "" ∧ IsIdentifier r.id
  first : ∀ r, records[0]? = some r → r.container = ""
  next : ∀ i r r', records[i]? = some r → records[i + 1]? = some r' → r.Precedes r'
  root : ∀ (i : Nat) (r : Record), records[i]? = some r → (r.isRoot ↔ i = 0)
  distinct : ∀ (i j : Nat) (r r' : Record), records[i]? = some r → records[j]? = some r' →
    r.id = r'.id → i = j
  /-- The container of a locator is declared once, right before the locator. -/
  declared : ∀ (i : Nat) (r : Record), records[i + 1]? = some r →
    ∀ (j : Nat) (r' : Record), records[j]? = some r' → (r'.id = r.container ↔ j = i)

section Links

variable {records : List Record}

theorem Precedes.length_lt {r r' : Record} (h : r.Precedes r') : r.id.length < r'.id.length := by
  obtain ⟨-, u, -, -, hid⟩ := h
  rw [hid, String.length_append, String.length_append]
  have : "_".length = 1 := rfl
  omega

theorem length_lt_of_next
    (next : ∀ i r r', records[i]? = some r → records[i + 1]? = some r' → r.Precedes r') {i j : Nat}
    {r r' : Record} (hij : i < j) (hr : records[i]? = some r) (hr' : records[j]? = some r') :
    r.id.length < r'.id.length := by
  induction j, hij using Nat.le_induction generalizing r' with
  | base => exact (next i r r' hr hr').length_lt
  | succ j hij ih =>
    obtain ⟨hj, -⟩ := List.getElem?_eq_some_iff.1 hr'
    have hq : records[j]? = some records[j] := List.getElem?_eq_getElem (by omega)
    exact (ih hq).trans (next j _ r' hq hr').length_lt

/-- What holds of each locator and the next one settles the rest. -/
theorem Linked.of_next (identifiers : ∀ r ∈ records, r.id ≠ "" ∧ IsIdentifier r.id)
    (first : ∀ r, records[0]? = some r → r.container = "")
    (next : ∀ i r r', records[i]? = some r → records[i + 1]? = some r' → r.Precedes r') :
    Linked records := by
  have before {i : Nat} {r : Record} (hr : records[i + 1]? = some r) :
      ∃ q, records[i]? = some q ∧ r.container = q.id := by
    obtain ⟨hi, -⟩ := List.getElem?_eq_some_iff.1 hr
    have hq : records[i]? = some records[i] := List.getElem?_eq_getElem (by omega)
    exact ⟨_, hq, (next i _ r hq hr).1⟩
  have distinct (i j : Nat) (r r' : Record) (hr : records[i]? = some r)
      (hr' : records[j]? = some r') (hid : r.id = r'.id) : i = j := by
    have hlen : r.id.length = r'.id.length := by rw [hid]
    rcases Nat.lt_trichotomy i j with h | h | h
    · exact absurd hlen (length_lt_of_next next h hr hr').ne
    · exact h
    · exact absurd hlen (length_lt_of_next next h hr' hr).ne'
  refine ⟨identifiers, first, next, fun i r hr => ?_, distinct, fun i r hr j r' hr' => ?_⟩
  · rw [isRoot_iff]
    cases i with
    | zero => simp [first r hr]
    | succ i =>
      obtain ⟨q, hq, hcontainer⟩ := before hr
      simp [hcontainer, (identifiers q (List.mem_of_getElem? hq)).1]
  · obtain ⟨q, hq, hcontainer⟩ := before hr
    rw [hcontainer]
    constructor
    · exact distinct j i r' q hr' hq
    · rintro rfl
      rw [hr'] at hq
      rw [Option.some.inj hq]

end Links

section Heuristic

/-- Every archetype has a word of letters, so no step is without runs. -/
theorem wordRuns_ne_nil (s : Step) : wordRuns .heuristic s ≠ [] := by
  have hlabel : ∀ a : Archetype, runs a.text.toList ≠ [] := by
    intro a
    cases a <;> decide
  intro h
  have hnone := List.flatMap_eq_nil_iff.1 h (Classifier.heuristic s.tag) (by simp [words])
  exact hlabel _ hnone

theorem isIdentifier_pathId {xs : List Step} (hxs : xs ≠ []) : IsIdentifier (pathId .heuristic xs) := by
  obtain ⟨x, xs, rfl⟩ := List.exists_cons_of_ne_nil hxs
  rw [pathId_eq_spell]
  exact isIdentifier_spell (fun _ => isRun_of_mem_steps) (by simp [wordRuns_ne_nil])

/-- The identifier of a path goes on where that of its first part ends. -/
theorem pathId_append {xs ys : List Step} (hxs : xs ≠ []) (hys : ys ≠ []) :
    pathId .heuristic (xs ++ ys) = pathId .heuristic xs ++ "_" ++ pathId .heuristic ys := by
  obtain ⟨x, xs, rfl⟩ := List.exists_cons_of_ne_nil hxs
  obtain ⟨y, ys, rfl⟩ := List.exists_cons_of_ne_nil hys
  simp only [pathId_eq_spell, List.flatMap_append]
  exact spell_append (by simp [wordRuns_ne_nil]) (by simp [wordRuns_ne_nil])

theorem take_succ_ne_nil {i : Nat} {xs : List Step} (hi : i < xs.length) : xs.take (i + 1) ≠ [] :=
  List.ne_nil_of_length_pos (by rw [List.length_take]; omega)

theorem linked_ofSteps (steps : List Step) : Linked (ofSteps .heuristic steps) := by
  refine .of_next ?_ ?_ ?_
  · intro r hr
    obtain ⟨i, hi⟩ := List.mem_iff_getElem?.1 hr
    obtain ⟨hlt, hid, -⟩ := ofSteps_getElem? hi
    have hne := take_succ_ne_nil hlt
    rw [hid]
    exact ⟨(isIdentifier_pathId hne).ne_empty, isIdentifier_pathId hne⟩
  · intro r hr
    exact (ofSteps_getElem? hr).2.2
  · intro i r r' hr hr'
    obtain ⟨hlt, hid, -⟩ := ofSteps_getElem? hr
    obtain ⟨hlt', hid', hcontainer'⟩ := ofSteps_getElem? hr'
    have hne := take_succ_ne_nil hlt
    have hsingle : IsIdentifier (pathId .heuristic [steps[i + 1]]) := isIdentifier_pathId (by simp)
    refine ⟨hcontainer'.trans hid.symm, _, hsingle.ne_empty, hsingle, ?_⟩
    rw [hid', hid, List.take_add_one, List.getElem?_eq_getElem hlt', Option.toList_some,
      pathId_append hne (by simp)]

end Heuristic

/-- Each step has its locator, and the locators are nested in one another from the first to the
last, whatever the steps are and so also if a source was read. -/
theorem locate_linked :
    (∀ (source : String) (records : List Record), locate source = .ok records →
      ∃ steps, parseExpression source = .ok steps ∧ records.length = steps.length ∧ Linked records) ∧
      ∀ steps : List Step, (ofSteps .heuristic steps).length = steps.length ∧
        Linked (ofSteps .heuristic steps) := by
  refine ⟨fun source records h => ?_, fun steps => ⟨length_ofSteps _ steps, linked_ofSteps steps⟩⟩
  obtain ⟨steps, hsteps, rfl⟩ := Path.locate_eq_ok_iff.1 h
  exact ⟨steps, hsteps, length_ofSteps _ steps, linked_ofSteps steps⟩

/-- Names and values without any letter or digit. -/
theorem locate_linked_symbols : ∃ records,
    locate "//_é_[@--='__' and x!=\"\"]/*[2]/ns:Button[@id='A-1']" = .ok records ∧ records.length = 4 ∧
      records.map (·.id) = ["any_QWidget", "any_QWidget_QWidget_x", "any_QWidget_QWidget_x_any_QWidget",
        "any_QWidget_QWidget_x_any_QWidget_ns_Button_PushButtonQT_id_A_1"] ∧ Linked records := by
  have h : parseExpression "//_é_[@--='__' and x!=\"\"]/*[2]/ns:Button[@id='A-1']" = .ok
      [⟨"descendant-or-self", "*", none, true⟩,
        ⟨"child", "_é_", some [.test ⟨"--", .eq, "__"⟩, .test ⟨"x", .ne, ""⟩], false⟩,
        ⟨"child", "*", some [.position 2], true⟩,
        ⟨"child", "ns:Button", some [.test ⟨"id", .eq, "A-1"⟩], true⟩] := by decide +kernel
  have hlocate := Path.locate_eq_ok_iff.2 ⟨_, h, rfl⟩
  obtain ⟨steps, hsteps, hlength, hlinked⟩ := locate_linked.1 _ _ hlocate
  obtain rfl := Except.ok.inj (h.symm.trans hsteps)
  exact ⟨_, hlocate, hlength, by decide +kernel, hlinked⟩

end Record
end WidgetLocator
