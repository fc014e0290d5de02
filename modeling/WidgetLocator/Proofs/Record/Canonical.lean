import WidgetLocator.Proofs.Record.Identifier

/-! What the canonical form keeps of a text: its maximal runs, in order, and nothing else. A run is
maximal if no letter and no digit stands next to it. Identifiers consist of such runs and of single
underscores between them already, so they are the texts that stay as they are. -/

namespace WidgetLocator.Identifier

open Token

def AlphanumAt (cs : List Char) (k : Nat) : Prop := ∃ c ∈ cs[k]?, c.isAlphanum

/-- Letters and digits from the place `i` up to the place `j`, and none right before or right after
them. -/
structure MaximalRun (cs : List Char) (i j : Nat) : Prop where
  lt : i < j
  inside : ∀ k, i ≤ k → k < j → AlphanumAt cs k
  before : ∀ k, k + 1 = i → ¬ AlphanumAt cs k
  after : ¬ AlphanumAt cs j

/-- The spans are those of the maximal runs, each of them once and from left to right. -/
structure Spans (cs : List Char) (spans : List (Nat × Nat)) : Prop where
  in_order : spans.Pairwise fun s t => s.2 < t.1
  mem_iff : ∀ s, s ∈ spans ↔ MaximalRun cs s.1 s.2

section Places

variable {c : Char} {cs ds xs ys : List Char} {i j k : Nat}

theorem AlphanumAt.lt_length (h : AlphanumAt cs k) : k < cs.length := by
  obtain ⟨c, hc, -⟩ := h
  exact (List.getElem?_eq_some_iff.1 hc).1

theorem alphanumAt_of_forall (h : ∀ c ∈ cs, c.isAlphanum) : AlphanumAt cs k ↔ k < cs.length := by
  refine ⟨AlphanumAt.lt_length, fun hk => ⟨cs[k], List.getElem?_eq_getElem hk, ?_⟩⟩
  exact h _ (List.getElem_mem hk)

theorem alphanumAt_left (hc : c.isAlphanum = false) (hk : k ≤ xs.length) :
    AlphanumAt (xs ++ c :: ys) k ↔ AlphanumAt xs k := by
  rcases hk.lt_or_eq with hlt | rfl
  · rw [AlphanumAt, List.getElem?_append_left hlt, AlphanumAt]
  · simp [AlphanumAt, hc]

theorem alphanumAt_right : AlphanumAt (xs ++ c :: ys) (xs.length + 1 + k) ↔ AlphanumAt ys k := by
  rw [AlphanumAt, List.getElem?_append_right (by omega),
    show xs.length + 1 + k - xs.length = k + 1 by omega, List.getElem?_cons_succ, AlphanumAt]

theorem MaximalRun.le_length (h : MaximalRun cs i j) : j ≤ cs.length := by
  have hlt := h.lt
  have hlast := (h.inside (j - 1) (by omega) (by omega)).lt_length
  omega

theorem maximalRun_of_forall (h : ∀ c ∈ cs, c.isAlphanum) :
    MaximalRun cs i j ↔ cs ≠ [] ∧ i = 0 ∧ j = cs.length := by
  constructor
  · intro hrun
    have hlt := hrun.lt
    have hle := hrun.le_length
    have hafter : ¬ j < cs.length := mt (alphanumAt_of_forall h).2 hrun.after
    have hbefore : ¬ (0 < i) := fun hi =>
      hrun.before (i - 1) (by omega) ((alphanumAt_of_forall h).2 (by omega))
    exact ⟨List.ne_nil_of_length_pos (by omega), by omega, by omega⟩
  · rintro ⟨hne, rfl, rfl⟩
    refine ⟨List.length_pos_of_ne_nil hne, fun k _ hk => (alphanumAt_of_forall h).2 hk, by simp, ?_⟩
    exact fun hend => Nat.lt_irrefl _ hend.lt_length

/-- Only what stands up to its end makes a run maximal. -/
theorem MaximalRun.of_agree (h : MaximalRun cs i j)
    (hagree : ∀ k ≤ j, AlphanumAt cs k ↔ AlphanumAt ds k) : MaximalRun ds i j := by
  have hlt := h.lt
  refine ⟨hlt, fun k hik hkj => ?_, fun k hk => ?_, ?_⟩
  · exact (hagree k hkj.le).1 (h.inside k hik hkj)
  · exact mt (hagree k (by omega)).2 (h.before k hk)
  · exact mt (hagree j (Nat.le_refl j)).2 h.after

theorem maximalRun_left (hc : c.isAlphanum = false) (hj : j ≤ xs.length) :
    MaximalRun (xs ++ c :: ys) i j ↔ MaximalRun xs i j :=
  ⟨fun h => h.of_agree fun _ hk => alphanumAt_left hc (hk.trans hj),
    fun h => h.of_agree fun _ hk => (alphanumAt_left hc (hk.trans hj)).symm⟩

theorem maximalRun_right (hc : c.isAlphanum = false) :
    MaximalRun (xs ++ c :: ys) (xs.length + 1 + i) (xs.length + 1 + j) ↔ MaximalRun ys i j := by
  constructor
  · intro h
    have hlt := h.lt
    refine ⟨by omega, fun k hik hkj => ?_, fun k hk hat => ?_, mt alphanumAt_right.2 h.after⟩
    · exact alphanumAt_right.1 (h.inside _ (by omega) (by omega))
    · exact h.before (xs.length + 1 + k) (by omega) (alphanumAt_right.2 hat)
  · intro h
    have hlt := h.lt
    refine ⟨by omega, fun k hik hkj => ?_, fun k hk hat => ?_, mt alphanumAt_right.1 h.after⟩
    · obtain ⟨k, rfl⟩ := Nat.exists_eq_add_of_le (show xs.length + 1 ≤ k by omega)
      exact alphanumAt_right.2 (h.inside k (by omega) (by omega))
    · cases i with
      | zero =>
        obtain rfl : k = xs.length := by omega
        exact Nat.lt_irrefl _ ((alphanumAt_left hc (Nat.le_refl _)).1 hat).lt_length
      | succ i =>
        obtain rfl : k = xs.length + 1 + i := by omega
        exact h.before i rfl (alphanumAt_right.1 hat)

/-- No run goes across a gap. -/
theorem maximalRun_append_cons (hc : c.isAlphanum = false) :
    MaximalRun (xs ++ c :: ys) i j ↔ MaximalRun xs i j ∨
      ∃ i' j', i = xs.length + 1 + i' ∧ j = xs.length + 1 + j' ∧ MaximalRun ys i' j' := by
  constructor
  · intro h
    have hlt := h.lt
    by_cases hi : i ≤ xs.length
    · have hj : j ≤ xs.length := by
        by_contra hj
        have hgap := (alphanumAt_left hc (Nat.le_refl _)).1 (h.inside xs.length hi (by omega))
        exact Nat.lt_irrefl _ hgap.lt_length
      exact .inl ((maximalRun_left hc hj).1 h)
    · obtain ⟨i', rfl⟩ := Nat.exists_eq_add_of_le (show xs.length + 1 ≤ i by omega)
      obtain ⟨j', rfl⟩ := Nat.exists_eq_add_of_le (show xs.length + 1 ≤ j by omega)
      exact .inr ⟨i', j', rfl, rfl, (maximalRun_right hc).1 h⟩
  · rintro (h | ⟨i, j, rfl, rfl, h⟩)
    · exact (maximalRun_left hc h.le_length).2 h
    · exact (maximalRun_right hc).2 h

end Places

section Cutting

variable {c : Char} {cs xs ys : List Char} {i j : Nat} {as bs : List (Nat × Nat)}

theorem Spans.append_cons (hc : c.isAlphanum = false) (hxs : Spans xs as) (hys : Spans ys bs) :
    Spans (xs ++ c :: ys) (as ++ bs.map fun s => (xs.length + 1 + s.1, xs.length + 1 + s.2)) := by
  constructor
  · rw [List.pairwise_append, List.pairwise_map]
    refine ⟨hxs.in_order, hys.in_order.imp fun h => by omega, fun s hs t ht => ?_⟩
    obtain ⟨t, -, rfl⟩ := List.mem_map.1 ht
    have hle := ((hxs.mem_iff s).1 hs).le_length
    dsimp only
    omega
  · rintro ⟨i, j⟩
    rw [List.mem_append, hxs.mem_iff, maximalRun_append_cons hc, List.mem_map]
    refine or_congr_right ⟨?_, ?_⟩
    · rintro ⟨s, hs, ⟨⟩⟩
      exact ⟨s.1, s.2, rfl, rfl, (hys.mem_iff s).1 hs⟩
    · rintro ⟨i, j, rfl, rfl, h⟩
      exact ⟨(i, j), (hys.mem_iff (i, j)).2 h, rfl⟩

theorem extract_left (hij : i ≤ j) (hj : j ≤ xs.length) : (xs ++ ys).extract i j = xs.extract i j := by
  rw [List.extract_eq_take_drop, List.drop_append_of_le_length (hij.trans hj),
    List.take_append_of_le_length (by rw [List.length_drop]; omega), List.extract_eq_take_drop]

theorem extract_right : (xs ++ ys).extract (xs.length + i) (xs.length + j) = ys.extract i j := by
  rw [List.extract_eq_take_drop, List.drop_length_add_append, Nat.add_sub_add_left,
    List.extract_eq_take_drop]

theorem exists_spans_of_forall (h : ∀ c ∈ cs, c.isAlphanum) :
    ∃ spans, Spans cs spans ∧ spans.map (fun s => cs.extract s.1 s.2) = runs cs := by
  cases cs with
  | nil =>
    refine ⟨[], ⟨.nil, fun s => ?_⟩, by simp⟩
    rw [maximalRun_of_forall h]
    simp
  | cons c cs =>
    refine ⟨[(0, (c :: cs).length)], ⟨List.pairwise_singleton _ _, fun s => ?_⟩, ?_⟩
    · rw [maximalRun_of_forall h, List.mem_singleton, Prod.ext_iff]
      simp
    · rw [runs_of_isRun ⟨by simp, h⟩]
      simp [List.extract_eq_take_drop]

/-- What stands at the spans are the runs of the text. -/
theorem exists_spans (cs : List Char) :
    ∃ spans, Spans cs spans ∧ spans.map (fun s => cs.extract s.1 s.2) = runs cs := by
  -- on the length of the text: a gap cuts it into two that are shorter
  induction hn : cs.length using Nat.strong_induction_on generalizing cs with
  | _ n ih =>
    by_cases hall : ∀ c ∈ cs, c.isAlphanum
    · exact exists_spans_of_forall hall
    · obtain ⟨c, hmem, hc⟩ : ∃ c ∈ cs, c.isAlphanum = false := by simpa using hall
      obtain ⟨xs, ys, rfl⟩ := List.append_of_mem hmem
      rw [List.length_append, List.length_cons] at hn
      obtain ⟨as, has, hleft⟩ := ih xs.length (by omega) xs rfl
      obtain ⟨bs, hbs, hright⟩ := ih ys.length (by omega) ys rfl
      refine ⟨_, has.append_cons hc hbs, ?_⟩
      rw [runs_append_cons hc, ← hleft, ← hright, List.map_append, List.map_map]
      congr 1
      · refine List.map_congr_left fun s hs => ?_
        have hrun := (has.mem_iff s).1 hs
        exact extract_left hrun.lt.le hrun.le_length
      · refine List.map_congr_left fun s _ => ?_
        rw [Function.comp_apply, Nat.add_assoc, Nat.add_assoc, extract_right, Nat.add_comm 1,
          Nat.add_comm 1, List.extract_eq_take_drop, List.drop_succ_cons, Nat.add_sub_add_right,
          List.extract_eq_take_drop]

end Cutting

section Canonical

variable {raw : String}

theorem canonical_underscore (a b : String) :
    canonical (a ++ "_" ++ b) = spell (runs a.toList ++ runs b.toList) := by
  have htext : (a ++ "_" ++ b).toList = a.toList ++ '_' :: b.toList := by simp
  rw [canonical_eq_spell, htext, runs_append_cons underscore_isGap]

theorem exists_spell_of_isIdentifier (h : IsIdentifier raw) :
    ∃ rs, (∀ r ∈ rs, IsRun r) ∧ raw = spell rs := by
  obtain ⟨r, hr, w, hw, htext⟩ := Language.mem_mul.1 h
  obtain ⟨ws, rfl, hws⟩ := Language.mem_kstar.1 hw
  choose! tail htail hmarked using fun y hy => mem_word_mul.1 (hws y hy)
  refine ⟨r :: ws.map tail, List.forall_mem_cons.2 ⟨mem_run.1 hr, ?_⟩, ?_⟩
  · intro q hq
    obtain ⟨y, hy, rfl⟩ := List.mem_map.1 hq
    exact mem_run.1 (htail y hy)
  · have hflatten : marked (ws.map tail) = ws.flatten := by
      rw [marked, List.flatMap_map, ← List.flatMap_id]
      exact List.flatMap_congr fun y hy => (hmarked y hy).symm
    rw [spell, intercalate_cons, hflatten, htext, String.ofList_toList]

theorem canonical_eq_self_iff : canonical raw = raw ↔ raw = "" ∨ IsIdentifier raw := by
  constructor
  · intro h
    rw [canonical_eq_spell] at h
    by_cases hruns : runs raw.toList = []
    · rw [hruns] at h
      exact .inl h.symm
    · exact .inr (h ▸ isIdentifier_spell (fun _ => isRun_of_mem_runs) hruns)
  · rintro (rfl | h)
    · rfl
    · obtain ⟨rs, hrs, rfl⟩ := exists_spell_of_isIdentifier h
      rw [canonical_eq_spell, runs_spell hrs]

end Canonical

/-- The canonical form is the maximal runs with single underscores between them. So a canonical form
stays as it is, as do the empty text and identifiers and no other text, and of two texts that an
underscore joins each can be brought into canonical form before. -/
theorem canonical_maximal_runs (raw : String) :
    (∃ spans, Spans raw.toList spans ∧
      canonical raw = spell (spans.map fun s => raw.toList.extract s.1 s.2)) ∧
    canonical (canonical raw) = canonical raw ∧
    (canonical raw = raw ↔ raw = "" ∨ IsIdentifier raw) ∧
    ∀ other, canonical (raw ++ "_" ++ other) = canonical (canonical raw ++ "_" ++ canonical other) := by
  refine ⟨?_, ?_, canonical_eq_self_iff, fun other => ?_⟩
  · obtain ⟨spans, hspans, htexts⟩ := exists_spans raw.toList
    exact ⟨spans, hspans, by rw [htexts, canonical_eq_spell]⟩
  · rw [canonical_eq_spell (canonical raw), runs_canonical, canonical_eq_spell]
  · rw [canonical_underscore, canonical_underscore, runs_canonical, runs_canonical]

end WidgetLocator.Identifier
