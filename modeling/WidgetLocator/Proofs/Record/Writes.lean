import WidgetLocator.Proofs.Record.Chain
import WidgetLocator.Proofs.Record.Metadata

/-! The metadata of the locators of a path. A step writes its archetype, then what its conditions say, and
then that it is visible; the names of its attributes may be keys that it writes of itself, before or after
them. What the metadata then hold under a key is what was written there last. -/

namespace WidgetLocator

def Condition.shown : Condition → Condition
  | test t => test { t with op := .eq }
  | position n => position n

/-- The step with everything at its default that locators do not show. -/
def Step.shown (s : Step) : Step where
  axis := Step.defaultAxis
  tag := s.tag
  predicate := some (s.conditions.map Condition.shown)
  absolute := false

namespace Record

variable {classify : Classifier} {key : String} {steps : List Step} {s : Step} {c : Condition}

theorem mem_keys_conditionWrites_iff : key ∈ (conditionWrites c).map Prod.fst ↔
    (key = "occurrence" ∧ ∃ n > 1, c = .position n) ∨ ∃ t, c = .test t ∧ t.name = key := by
  cases c with
  | test t => simp [conditionWrites, eq_comm]
  | position n => by_cases hn : n > 1 <;> simp [conditionWrites, hn]

theorem mem_keys_conditions_iff {conditions : List Condition} :
    key ∈ (conditions.flatMap conditionWrites).map Prod.fst ↔
      (key = "occurrence" ∧ ∃ n > 1, .position n ∈ conditions) ∨ ∃ t, .test t ∈ conditions ∧ t.name = key := by
  simp only [List.map_flatMap, List.mem_flatMap, mem_keys_conditionWrites_iff]
  constructor
  · rintro ⟨c, hc, ⟨hkey, n, hn, rfl⟩ | ⟨t, rfl, ht⟩⟩
    · exact .inl ⟨hkey, n, hn, hc⟩
    · exact .inr ⟨t, hc, ht⟩
  · rintro (⟨hkey, n, hn, hc⟩ | ⟨t, hc, ht⟩)
    · exact ⟨_, hc, .inl ⟨hkey, n, hn, rfl⟩⟩
    · exact ⟨_, hc, .inr ⟨t, rfl, ht⟩⟩

theorem mem_tests_iff {t : AttributeTest} : t ∈ s.tests ↔ .test t ∈ s.conditions := by
  rw [Step.tests, List.mem_filterMap]
  constructor
  · rintro ⟨c, hc, htest⟩
    cases c with
    | test t' => exact Option.some.inj htest ▸ hc
    | position n => cases htest
  · exact fun hc => ⟨_, hc, rfl⟩

theorem mem_keys_writes_iff : key ∈ (writes classify s).map Prod.fst ↔
    key = "archetype" ∨ key = "visible" ∨
      (key = "occurrence" ∧ ∃ n > 1, .position n ∈ s.conditions) ∨ ∃ t ∈ s.tests, t.name = key := by
  simp only [mem_tests_iff]
  rw [writes, List.map_append, List.map_cons, List.mem_append, List.mem_cons, mem_keys_conditions_iff,
    List.map_singleton, List.mem_singleton, or_assoc, or_comm (b := key = "visible")]

theorem metadata_of_getElem? {i : Nat} {r : Record} (h : (ofSteps classify steps)[i]? = some r) :
    ∃ s, steps[i]? = some s ∧ r.metadata = Metadata.ofWrites (writes classify s) := by
  rw [ofSteps_eq_chain, chain_getElem?] at h
  obtain ⟨s, hs, rfl⟩ := Option.map_eq_some_iff.1 h
  exact ⟨s, hs, rfl⟩

/-- What the metadata of a step say, and how that comes from the writes `ws`. -/
structure Documents (s : Step) (ws : List (String × Value)) (m : Metadata) : Prop where
  keys : m.keys = (ws.map Prod.fst).eraseDups
  distinct : m.keys.Nodup
  values : ∀ key v, m.get? key = some v ↔
    ∃ before after, ws = before ++ (key, v) :: after ∧ key ∉ after.map Prod.fst
  archetype : m.keys.head? = some "archetype"
  visible : m.get? "visible" = some (.int 1)
  /-- The last position above one stays, unless an attribute of that name comes after it. -/
  occurrence : ∀ before (n : Nat) after, s.conditions = before ++ .position n :: after → 1 < n →
    (∀ n', .position n' ∈ after → n' ≤ 1) → (∀ t, .test t ∈ after → t.name ≠ "occurrence") →
      m.get? "occurrence" = some (.int n)

theorem documents_ofStep (classify : Classifier) (parent : String) (s : Step) :
    Documents s (writes classify s) (ofStep classify parent s).metadata where
  keys := Metadata.keys_ofWrites _
  distinct := Metadata.nodup_keys_ofWrites _
  values _ _ := Metadata.get?_ofWrites_eq_some_iff
  archetype := by
    rw [ofStep, Metadata.keys_ofWrites, writes, List.cons_append, List.map_cons, List.eraseDups_cons,
      List.head?_cons]
  visible := Metadata.get?_ofWrites_eq_some_iff.2 ⟨_, [], rfl, List.not_mem_nil⟩
  occurrence before n after hconditions hn hpositions htests := by
    refine Metadata.get?_ofWrites_eq_some_iff.2 ⟨("archetype", .string (classify s.tag)) ::
      before.flatMap conditionWrites, after.flatMap conditionWrites ++ [("visible", .int 1)], ?_, ?_⟩
    · simp [writes, hconditions, conditionWrites, hn]
    · rw [List.map_append, List.mem_append, mem_keys_conditions_iff]
      rintro ((⟨-, n', hn', hafter⟩ | ⟨t, hafter, ht⟩) | hlast)
      · exact absurd (hpositions n' hafter) (by omega)
      · exact htests t hafter ht
      · exact absurd (List.mem_singleton.1 hlast) (by decide)

theorem ofStep_shown (classify : Classifier) (parent : String) (s : Step) :
    ofStep classify parent s.shown = ofStep classify parent s := by
  have hwords (c : Condition) : conditionWords c.shown = conditionWords c := by cases c <;> rfl
  have hwrites (c : Condition) : conditionWrites c.shown = conditionWrites c := by cases c <;> rfl
  have hconditions : s.shown.conditions = s.conditions.map Condition.shown := rfl
  have hid : identifier classify parent s.shown = identifier classify parent s := by
    rw [identifier_eq_spell, identifier_eq_spell, wordRuns, wordRuns, words, words, hconditions,
      List.flatMap_map]
    simp only [hwords]
    rfl
  rw [ofStep, ofStep, hid, writes, writes, hconditions, List.flatMap_map]
  simp only [hwrites]
  rfl

theorem forall₂_chain (classify : Classifier) (parent : String) (steps : List Step) :
    List.Forall₂ (fun s r => Documents s (writes classify s) r.metadata) steps
      (chain classify parent steps) := by
  induction steps generalizing parent with
  | nil => exact .nil
  | cons s steps ih => exact .cons (documents_ofStep classify parent s) (ih _)

/-- The metadata of each locator say what its step writes: every key once, in the order of the first
writes, and under it what was written last. The axis of a step, its slash and its comparisons cannot be
seen in any locator. -/
theorem ofSteps_documents (classify : Classifier) (steps : List Step) :
    List.Forall₂ (fun s r => Documents s
        (("archetype", .string (classify s.tag)) :: s.conditions.flatMap (fun
            | .test t => [(t.name, .string t.value)]
            | .position n => if n > 1 then [("occurrence", .int n)] else []) ++
          [("visible", .int 1)]) r.metadata) steps (ofSteps classify steps) ∧
      ofSteps classify (steps.map Step.shown) = ofSteps classify steps :=
  ⟨forall₂_chain classify "" steps, ofSteps_map (ofStep_shown classify) steps⟩

example : (ofStep .heuristic "" ⟨"child", "row", some [.test ⟨"visible", .ne, "no"⟩, .position 2,
      .test ⟨"occurrence", .eq, "x"⟩, .position 18446744073709551615, .position 1], true⟩).metadata.entries =
    [("archetype", .string "QWidget"), ("visible", .int 1), ("occurrence", .int 18446744073709551615)] := by
  rfl

end Record

end WidgetLocator
