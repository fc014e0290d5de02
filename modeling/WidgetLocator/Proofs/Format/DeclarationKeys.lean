import WidgetLocator.Proofs.Format.Declarations
import WidgetLocator.Proofs.Record.Writes

/-! The keys of a declaration. A document of metadata has each of its keys once, because a write under a
key that is there changes the value in its place. The container is no entry of the document but goes on
where its text ends, and so it comes second under its key if the step tests an attribute of that name. -/

namespace WidgetLocator

namespace Declarations

open Json (readEntries readField)
open WidgetLocator.Path (afterText?)

section Fields

variable {indent : Nat} {r : Record}

def fields? (cs : List Char) : Option (List (String × Content)) := do
  let rest ← afterText? [' ', '=', ' ', '\x7b'] (cs.dropWhile isReferenceChar)
  let (fields, rest) ← readEntries (readField (readContent rest.length)) '\x7d' rest
  if rest = ['\n'] then some fields else none

theorem Declarable.fields? (h : Declarable r) : fields? (declaration indent r) = some (contents r) := by
  have hspace : isReferenceChar ' ' = false := by decide
  rw [Declarations.fields?, declaration_eq, List.dropWhile_append_of_pos h.id]
  simp [hspace, afterText?, h.readContents]

theorem map_fst_contents (r : Record) : (contents r).map Prod.fst =
    r.metadata.keys ++ if r.container = "" then [] else [containerField] := by
  rw [contents, List.map_append, valueFields, List.map_map]
  split <;> rfl

theorem nodup_keys_contents_iff (h : r.metadata.keys.Nodup) :
    ((contents r).map Prod.fst).Nodup ↔ r.container = "" ∨ containerField ∉ r.metadata.keys := by
  rw [map_fst_contents]
  by_cases hroot : r.container = ""
  · simpa [hroot] using h
  · rw [if_neg hroot, List.nodup_append_comm, List.singleton_append, List.nodup_cons]
    simp [hroot, h]

theorem count_containerField_contents (h : r.metadata.keys.Nodup) (hroot : r.container ≠ "") :
    ((contents r).map Prod.fst).count containerField = if containerField ∈ r.metadata.keys then 2 else 1 := by
  rw [map_fst_contents, if_neg hroot, List.count_append, h.count, List.count_singleton_self]
  split <;> rfl

end Fields

/-- The fields of a declaration have distinct keys, except where a step with a container tests an
attribute that is named as the container is. The container then comes second under its key, and it is
the last field and without quotes in any case. -/
theorem fields_distinct_iff {indent : Nat} {classify : Classifier} {steps : List Step} {i : Nat}
    {r : Record} (h : (Record.ofSteps classify steps)[i]? = some r) :
    ∃ s fields, steps[i]? = some s ∧ fields? (declaration indent r) = some fields ∧
      ((fields.map Prod.fst).Nodup ↔ r.isRoot ∨ ∀ t ∈ s.tests, t.name ≠ containerField) ∧
      (¬ r.isRoot → fields.getLast? = some (containerField, .reference r.container) ∧
        ((fields.map Prod.fst).count containerField = 1 ↔ ∀ t ∈ s.tests, t.name ≠ containerField)) := by
  have hdeclarable : Declarable r := declarable_of_mem_chain (by simp) r (List.mem_of_getElem? h)
  obtain ⟨s, hs, hmetadata⟩ := Record.metadata_of_getElem? h
  have hnodup : r.metadata.keys.Nodup := hmetadata ▸ Metadata.nodup_keys_ofWrites _
  have hnone : containerField ∉ r.metadata.keys ↔ ∀ t ∈ s.tests, t.name ≠ containerField := by
    have hown : containerField ≠ "archetype" ∧ containerField ≠ "visible" ∧
        containerField ≠ "occurrence" := by decide
    rw [hmetadata, Metadata.mem_keys_ofWrites, Record.mem_keys_writes_iff]
    simp [hown]
  refine ⟨s, _, hs, hdeclarable.fields?, ?_, fun hroot => ⟨?_, ?_⟩⟩
  · rw [nodup_keys_contents_iff hnodup, hnone, Record.isRoot_iff]
  · rw [contents, if_neg (mt Record.isRoot_iff.2 hroot), List.getLast?_concat]
  · rw [count_containerField_contents hnodup (mt Record.isRoot_iff.2 hroot), ← hnone]
    simp

/-- The first step has no container, and the second one no attribute of that name. -/
theorem fields_distinct_iff_root : ∃ r r' fields fields',
    Record.ofSteps .heuristic [⟨"child", "a", some [.test ⟨"container", .eq, "x"⟩], false⟩,
        ⟨"child", "b", some [.test ⟨"id", .eq, "y"⟩, .position 2], true⟩] = [r, r'] ∧
      fields? (declaration 4 r) = some fields ∧ (fields.map Prod.fst).Nodup ∧
      fields? (declaration 4 r') = some fields' ∧ (fields'.map Prod.fst).Nodup := by
  obtain ⟨s, fields, -, hfields, hdistinct, -⟩ :=
    @fields_distinct_iff 4 .heuristic [⟨"child", "a", some [.test ⟨"container", .eq, "x"⟩], false⟩,
      ⟨"child", "b", some [.test ⟨"id", .eq, "y"⟩, .position 2], true⟩] 0 _ rfl
  obtain ⟨s', fields', hs', hfields', hdistinct', -⟩ :=
    @fields_distinct_iff 4 .heuristic [⟨"child", "a", some [.test ⟨"container", .eq, "x"⟩], false⟩,
      ⟨"child", "b", some [.test ⟨"id", .eq, "y"⟩, .position 2], true⟩] 1 _ rfl
  obtain rfl := Option.some.inj hs'
  exact ⟨_, _, fields, fields', rfl, hfields, hdistinct.2 (.inl rfl), hfields', hdistinct'.2 (.inr (by decide))⟩

/-- An attribute that is named as the container is, in a step that has a container. -/
theorem not_fields_distinct_container : ∃ r fields,
    (Record.ofSteps .heuristic [⟨"child", "a", none, false⟩,
        ⟨"child", "b", some [.test ⟨"container", .eq, "x"⟩], true⟩])[1]? = some r ∧
      fields? (declaration 4 r) = some fields ∧
      fields.map Prod.fst = ["archetype", "container", "visible", "container"] ∧
      ¬ (fields.map Prod.fst).Nodup := by
  have hkeys : (fields? (declaration 4 (Record.ofStep .heuristic "a_QWidget"
      ⟨"child", "b", some [.test ⟨"container", .eq, "x"⟩], true⟩))).map (·.map Prod.fst) =
        some ["archetype", "container", "visible", "container"] := by decide +kernel
  obtain ⟨fields, hfields, hmap⟩ := Option.map_eq_some_iff.1 hkeys
  refine ⟨_, fields, ?_, hfields, hmap, hmap ▸ by decide⟩
  have hparent : Record.identifier .heuristic "" ⟨"child", "a", none, false⟩ = "a_QWidget" := by
    decide +kernel
  simp [Record.ofSteps, Record.chain, Record.ofStep, hparent]

end Declarations

end WidgetLocator
