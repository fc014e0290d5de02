import WidgetLocator.Proofs.Token.Pattern
import WidgetLocator.Record.Identifier

/-! Identifiers as lists of runs. A run is a stretch of ASCII letters and digits that is as long as it
can be. The canonical form of a text keeps its runs and nothing else, so whatever is done to a text
before it is brought into that form matters only for its runs; an underscore between two texts keeps
the runs of both apart. -/

namespace WidgetLocator.Identifier

open scoped Computability
open Token

def runs (cs : List Char) : List (List Char) :=
  (cs.splitOnP fun c => !c.isAlphanum).filter fun r => !r.isEmpty

def spell (rs : List (List Char)) : String := String.ofList (['_'].intercalate rs)

structure IsRun (r : List Char) : Prop where
  ne_nil : r ≠ []
  alphanum : ∀ c ∈ r, c.isAlphanum

def run : Language Char := one Char.isAlphanum * (one Char.isAlphanum)∗

/-- Runs with single underscores between them, and at least one of them. -/
def language : Language Char := run * (word ['_'] * run)∗

def IsIdentifier (text : String) : Prop := text.toList ∈ language

section Runs

variable {c : Char} {cs : List Char}

@[simp] theorem runs_nil : runs [] = [] := by simp [runs]

theorem runs_append_cons (hc : c.isAlphanum = false) (xs ys : List Char) :
    runs (xs ++ c :: ys) = runs xs ++ runs ys := by
  rw [runs, List.splitOnP_append_cons xs ys (by simp [hc]), List.filter_append]
  rfl

theorem runs_cons_of_gap (hc : c.isAlphanum = false) : runs (c :: cs) = runs cs := by
  simpa using runs_append_cons hc [] cs

/-- The piece up to the first gap and the runs after it. -/
theorem exists_splitOnP (cs : List Char) : ∃ first rest,
    (cs.splitOnP fun c => !c.isAlphanum) = first :: rest ∧ (∀ c ∈ first, c.isAlphanum) ∧
      (∀ r ∈ rest, ∀ c ∈ r, c.isAlphanum) := by
  induction cs with
  | nil => exact ⟨[], [], by simp, by simp, by simp⟩
  | cons c cs ih =>
    obtain ⟨first, rest, hsplit, hfirst, hrest⟩ := ih
    rw [List.splitOnP_cons_eq_if_modifyHead, hsplit]
    by_cases hc : c.isAlphanum
    · refine ⟨c :: first, rest, by simp [hc], ?_, hrest⟩
      exact List.forall_mem_cons.2 ⟨hc, hfirst⟩
    · exact ⟨[], first :: rest, by simp [hc], by simp, List.forall_mem_cons.2 ⟨hfirst, hrest⟩⟩

theorem isRun_of_mem_runs {r : List Char} (hr : r ∈ runs cs) : IsRun r := by
  obtain ⟨first, rest, hsplit, hfirst, hrest⟩ := exists_splitOnP cs
  rw [runs, hsplit, List.mem_filter] at hr
  refine ⟨by simpa using hr.2, ?_⟩
  exact (List.forall_mem_cons.2 ⟨hfirst, hrest⟩ : ∀ r ∈ first :: rest, ∀ c ∈ r, c.isAlphanum) r hr.1

theorem runs_of_isRun {r : List Char} (hr : IsRun r) : runs r = [r] := by
  rw [runs, List.splitOnP_eq_singleton (by simpa using hr.alphanum)]
  simp [hr.ne_nil]

theorem underscore_isGap : '_'.isAlphanum = false := by decide

theorem runs_intercalate (pieces : List (List Char)) :
    runs (['_'].intercalate pieces) = pieces.flatMap runs := by
  induction pieces with
  | nil => simp
  | cons piece pieces ih =>
    cases pieces with
    | nil => simp
    | cons next pieces =>
      rw [List.intercalate_cons_cons, List.append_assoc, List.singleton_append,
        runs_append_cons underscore_isGap, ih, ← List.flatMap_cons]

end Runs

section Canonical

variable {cs : List Char} {rs qs : List (List Char)}

def marked (rs : List (List Char)) : List Char := rs.flatMap ('_' :: ·)

theorem intercalate_cons (r : List Char) (rs : List (List Char)) :
    ['_'].intercalate (r :: rs) = r ++ marked rs := by
  induction rs generalizing r with
  | nil => simp [marked]
  | cons q rs ih =>
    rw [List.intercalate_cons_cons, ih, List.append_assoc, List.singleton_append]
    rfl

/-- What is written before a run depends on whether one has been written already, and only a run
that is still open can go on without an underscore. -/
theorem joinRuns_eq {first : List Char} {rest : List (List Char)}
    (hsplit : (cs.splitOnP fun c => !c.isAlphanum) = first :: rest) :
    joinRuns false true cs = first ++ marked (rest.filter fun r => !r.isEmpty) ∧
      joinRuns true true cs = marked (runs cs) ∧
      ∀ gap, joinRuns gap false cs = ['_'].intercalate (runs cs) := by
  induction cs generalizing first rest with
  | nil =>
    obtain ⟨rfl, rfl⟩ : [] = first ∧ [] = rest := by simpa using hsplit
    simp [joinRuns, marked]
  | cons c cs ih =>
    obtain ⟨first', rest', hsplit', -⟩ := exists_splitOnP cs
    obtain ⟨hopen, hgap, hstart⟩ := ih hsplit'
    rw [List.splitOnP_cons_eq_if_modifyHead, hsplit'] at hsplit
    by_cases hc : c.isAlphanum
    · obtain ⟨rfl, rfl⟩ : c :: first' = first ∧ rest' = rest := by simpa [hc] using hsplit
      have hruns : runs (c :: cs) = (c :: first') :: rest'.filter fun r => !r.isEmpty := by
        simp [runs, List.splitOnP_cons_eq_if_modifyHead, hsplit', hc]
      rw [hruns, intercalate_cons]
      simp [joinRuns, hc, hopen, marked]
    · obtain ⟨rfl, rfl⟩ : [] = first ∧ first' :: rest' = rest := by simpa [hc] using hsplit
      have hruns : runs cs = (first' :: rest').filter fun r => !r.isEmpty := by
        rw [runs, hsplit']
      rw [runs_cons_of_gap (by simpa using hc), ← hruns]
      simp [joinRuns, hc, hgap, hstart]

theorem canonical_eq_spell (raw : String) : canonical raw = spell (runs raw.toList) := by
  obtain ⟨first, rest, hsplit, -⟩ := exists_splitOnP raw.toList
  rw [canonical, (joinRuns_eq hsplit).2.2 false, spell]

theorem mem_joinRuns {gap started : Bool} : ∀ c ∈ joinRuns gap started cs, c.isAlphanum ∨ c = '_' := by
  fun_induction joinRuns gap started cs with
  | case1 => simp
  | case2 gap started c cs hc hgap ih =>
    exact List.forall_mem_cons.2 ⟨.inr rfl, List.forall_mem_cons.2 ⟨.inl hc, ih⟩⟩
  | case3 gap started c cs hc hgap ih => exact List.forall_mem_cons.2 ⟨.inl hc, ih⟩
  | case4 gap started c cs hc ih => exact ih

theorem mem_canonical {raw : String} {c : Char} (h : c ∈ (canonical raw).toList) :
    c.isAlphanum ∨ c = '_' := by
  rw [canonical, String.toList_ofList] at h
  exact mem_joinRuns c h

theorem runs_spell (h : ∀ r ∈ rs, IsRun r) : runs (spell rs).toList = rs := by
  rw [spell, String.toList_ofList, runs_intercalate]
  induction rs with
  | nil => rfl
  | cons r rs ih =>
    obtain ⟨hr, hrs⟩ := List.forall_mem_cons.1 h
    rw [List.flatMap_cons, runs_of_isRun hr, ih hrs, List.singleton_append]

/-- Nothing but the runs is kept, and all of them are. -/
theorem runs_canonical (raw : String) : runs (canonical raw).toList = runs raw.toList := by
  rw [canonical_eq_spell, runs_spell fun _ => isRun_of_mem_runs]

theorem runs_join (texts : List String) :
    runs ("_".intercalate texts).toList = texts.flatMap fun t => runs t.toList := by
  have underscore : "_".toList = ['_'] := rfl
  rw [String.toList_intercalate, underscore, runs_intercalate, List.flatMap_map]

theorem spell_append (hrs : rs ≠ []) (hqs : qs ≠ []) :
    spell (rs ++ qs) = spell rs ++ "_" ++ spell qs := by
  obtain ⟨r, rs, rfl⟩ := List.exists_cons_of_ne_nil hrs
  obtain ⟨q, qs, rfl⟩ := List.exists_cons_of_ne_nil hqs
  simp only [spell, List.cons_append, intercalate_cons]
  rw [← String.toList_inj]
  simp [marked]

end Canonical

section Shape

theorem mem_run {w : List Char} : w ∈ run ↔ IsRun w := by
  rw [run, mem_one_mul]
  constructor
  · intro h
    obtain ⟨c, v, rfl, hc, hv⟩ := h
    exact ⟨by simp, List.forall_mem_cons.2 ⟨hc, mem_kstar_one.1 hv⟩⟩
  · intro h
    obtain ⟨c, v, rfl⟩ := List.exists_cons_of_ne_nil h.ne_nil
    obtain ⟨hc, hv⟩ := List.forall_mem_cons.1 h.alphanum
    exact ⟨c, v, rfl, hc, mem_kstar_one.2 hv⟩

theorem marked_mem {rs : List (List Char)} (h : ∀ r ∈ rs, IsRun r) :
    marked rs ∈ (word ['_'] * run)∗ := by
  rw [Language.mem_kstar]
  refine ⟨rs.map ('_' :: ·), rfl, fun y hy => ?_⟩
  obtain ⟨r, hr, rfl⟩ := List.mem_map.1 hy
  exact mem_word_mul.2 ⟨r, mem_run.2 (h r hr), rfl⟩

theorem isIdentifier_spell {rs : List (List Char)} (h : ∀ r ∈ rs, IsRun r) (hne : rs ≠ []) :
    IsIdentifier (spell rs) := by
  obtain ⟨r, rs, rfl⟩ := List.exists_cons_of_ne_nil hne
  obtain ⟨hr, hrs⟩ := List.forall_mem_cons.1 h
  rw [IsIdentifier, spell, String.toList_ofList, intercalate_cons]
  exact Language.mem_mul.2 ⟨r, mem_run.2 hr, _, marked_mem hrs, rfl⟩

theorem IsIdentifier.ne_empty {text : String} (h : IsIdentifier text) : text ≠ "" := by
  rintro rfl
  obtain ⟨r, hr, w, -, hw⟩ := Language.mem_mul.1 h
  obtain ⟨rfl, -⟩ := List.append_eq_nil_iff.1 hw
  exact (mem_run.1 hr).ne_nil rfl

end Shape

end WidgetLocator.Identifier
