import Mathlib.Tactic.TFAE
import WidgetLocator.Config.Basic
import WidgetLocator.Proofs.Entries
import WidgetLocator.Except
import WidgetLocator.Proofs.Text.Bytes

/-! The registry through its history. A registry is what a sequence of registrations has made of it,
and all that can be asked about a name is settled by the formatter that was registered last under
it. The ways to ask are written one by one; that they agree rests on an invariant of the entries,
which a registration keeps: no name occurs twice, and a name leads to the last formatter of that
name. -/

namespace WidgetLocator.Registry

def builtIn : List Formatter :=
  [Declarations.formatter Declarations.defaultIndent, Json.formatter, Yaml.formatter]

/-- The registries that registrations lead to, with the formatters that were registered so far. -/
inductive Reached : Registry → List Formatter → Prop
  | empty : Reached empty []
  | standard : Reached standard builtIn
  | register {r : Registry} {fs : List Formatter} (f : Formatter) :
      Reached r fs → Reached (r.register f) (fs ++ [f])

def latest? (fs : List Formatter) (name : String) : Option Formatter :=
  (fs.filter (·.name == name)).getLast?

/-- Two registries answer alike whatever is asked about the name. -/
structure Alike (r r' : Registry) (name : String) : Prop where
  has : r.has name = r'.has name
  get? : r.get? name = r'.get? name
  lookup : r.lookup name = r'.lookup name
  listed : name ∈ r.names ↔ name ∈ r'.names
  named : Rendering.named r name = Rendering.named r' name
  configured : ∀ indent, Rendering.configured r name indent = Rendering.configured r' name indent
  serialize : ∀ records, r.serialize records name = r'.serialize records name

/-- All answers of a registry agree with one another and with what was registered. -/
structure Consistent (r : Registry) (fs : List Formatter) : Prop where
  known : ∀ n, [∃ f ∈ fs, f.name = n, r.has n = true, (r.get? n).isSome = true,
    ∃ f, r.lookup n = .ok f, ∃ s, Rendering.named r n = .ok s, n ∈ r.names].TFAE
  latest : ∀ n, r.has n = true → ∃ f, latest? fs n = some f ∧ f.name = n ∧ r.get? n = some f ∧
    r.lookup n = .ok f ∧ Rendering.named r n = .ok ⟨f⟩ ∧
    ∀ records, r.serialize records n = f.serialize records
  missing : ∀ n, r.has n = false → r.get? n = none ∧ r.lookup n = .error (.notFound n) ∧
    Rendering.named r n = .error (.notFound n) ∧
    ∀ records, r.serialize records n = .error (.notFound n)
  named : ∀ n s, Rendering.named r n = .ok s → s.formatName = n
  configured : ∀ (c : Config) s, c.rendering r = .ok s → s.formatName = c.format
  refused : ∀ (c : Config) e, c.rendering r = .error e ↔
    c.format ≠ "declarations" ∧ r.has c.format = false ∧ e = .notFound c.format
  sorted : (r.names.map Text.bytes).Pairwise (· < ·)
  unchanged : ∀ f n, n ≠ f.name → Alike (r.register f) r n
  commute : ∀ f g, f.name ≠ g.name →
    ((r.register f).register g).names = ((r.register g).register f).names ∧
      ∀ n, Alike ((r.register f).register g) ((r.register g).register f) n

/-- What registrations keep: the names of the entries are distinct, and each leads to the last
formatter of its name. -/
structure Holds (r : Registry) (fs : List Formatter) : Prop where
  distinct : (r.entries.map (·.1)).Nodup
  get?_eq : ∀ n, r.get? n = latest? fs n

section Latest

variable {fs : List Formatter} {f : Formatter} {n : String}

theorem latest?_concat : latest? (fs ++ [f]) n = if n = f.name then some f else latest? fs n := by
  unfold latest?
  rw [List.filter_append]
  by_cases h : n = f.name
  · simp [h]
  · simp [h, Ne.symm h]

theorem name_of_latest? (h : latest? fs n = some f) : f.name = n :=
  beq_iff_eq.1 (List.mem_filter.1 (List.mem_of_getLast? h)).2

theorem isSome_latest? : (latest? fs n).isSome = true ↔ ∃ f ∈ fs, f.name = n := by
  simp [latest?]

end Latest

theorem putFormatter_eq_put (name : String) (f : Formatter) (entries : List (String × Formatter)) :
    putFormatter name f entries = Entries.put name f entries := by
  induction entries with
  | nil => rfl
  | cons entry entries ih => rw [putFormatter, Entries.put, ih]

section Invariant

variable {r : Registry} {fs : List Formatter}

theorem get?_register (f : Formatter) (n : String) :
    (r.register f).get? n = if n = f.name then some f else r.get? n := by
  rw [get?, register, putFormatter_eq_put]
  exact Entries.lookup_put

theorem nodup_register (f : Formatter) (h : (r.entries.map (·.1)).Nodup) :
    ((r.register f).entries.map (·.1)).Nodup := by
  rw [register, putFormatter_eq_put]
  exact Entries.nodup_put h

theorem Holds.empty : Holds empty [] := ⟨.nil, fun _ => rfl⟩

theorem Holds.register (f : Formatter) (h : Holds r fs) : Holds (r.register f) (fs ++ [f]) :=
  ⟨nodup_register f h.distinct, fun n => by rw [get?_register, latest?_concat, h.get?_eq]⟩

theorem Reached.holds (h : Reached r fs) : Holds r fs := by
  induction h with
  | empty => exact .empty
  | standard => exact ((Holds.empty.register _).register _).register _
  | register f _ ih => exact ih.register f

end Invariant

section Answers

variable {r r' : Registry} {fs : List Formatter} {f : Formatter} {n : String}

theorem has_eq_isSome : r.has n = (r.get? n).isSome := by
  rw [Bool.eq_iff_iff, get?, Entries.isSome_lookup]
  simp [has]

theorem mem_names : n ∈ r.names ↔ (r.get? n).isSome = true := by
  rw [get?, Entries.isSome_lookup, names]
  exact (List.mergeSort_perm _ _).mem_iff

theorem lookup_eq (r : Registry) (n : String) : r.lookup n = match r.get? n with
    | some f => .ok f
    | none => .error (.notFound n) :=
  rfl

theorem named_eq (r : Registry) (n : String) : Rendering.named r n = match r.get? n with
    | some f => .ok ⟨f⟩
    | none => .error (.notFound n) := by
  rw [Rendering.named, lookup_eq]
  cases r.get? n <;> rfl

theorem serialize_eq (r : Registry) (records : List Record) (n : String) :
    r.serialize records n = match r.get? n with
      | some f => f.serialize records
      | none => .error (.notFound n) :=
  rfl

/-- All answers about a name come from the formatter that is found under it. -/
theorem Alike.of_get? (h : r.get? n = r'.get? n) : Alike r r' n := by
  have hnamed : Rendering.named r n = Rendering.named r' n := by rw [named_eq, named_eq, h]
  refine ⟨?_, h, ?_, ?_, hnamed, fun indent => ?_, fun records => ?_⟩
  · rw [has_eq_isSome, has_eq_isSome, h]
  · rw [lookup_eq, lookup_eq, h]
  · rw [mem_names, mem_names, h]
  · rw [Rendering.configured, Rendering.configured, hnamed]
  · rw [serialize_eq r, serialize_eq r', h]

theorem Holds.known (h : Holds r fs) (n : String) :
    [∃ f ∈ fs, f.name = n, r.has n = true, (r.get? n).isSome = true,
      ∃ f, r.lookup n = .ok f, ∃ s, Rendering.named r n = .ok s, n ∈ r.names].TFAE := by
  tfae_have 1 ↔ 3 := by rw [h.get?_eq, isSome_latest?]
  tfae_have 2 ↔ 3 := by rw [has_eq_isSome]
  tfae_have 4 ↔ 3 := by
    rw [lookup_eq]
    cases r.get? n <;> simp
  tfae_have 5 ↔ 3 := by
    rw [named_eq]
    cases r.get? n <;> simp
  tfae_have 6 ↔ 3 := mem_names
  tfae_finish

theorem Holds.latest (h : Holds r fs) (hn : r.has n = true) : ∃ f, latest? fs n = some f ∧
    f.name = n ∧ r.get? n = some f ∧ r.lookup n = .ok f ∧ Rendering.named r n = .ok ⟨f⟩ ∧
    ∀ records, r.serialize records n = f.serialize records := by
  rw [has_eq_isSome] at hn
  obtain ⟨f, hf⟩ := Option.isSome_iff_exists.1 hn
  have hlatest : latest? fs n = some f := h.get?_eq n ▸ hf
  refine ⟨f, hlatest, name_of_latest? hlatest, hf, ?_, ?_, fun records => ?_⟩
  · rw [lookup_eq, hf]
  · rw [named_eq, hf]
  · rw [serialize_eq, hf]

theorem missing (hn : r.has n = false) : r.get? n = none ∧ r.lookup n = .error (.notFound n) ∧
    Rendering.named r n = .error (.notFound n) ∧
    ∀ records, r.serialize records n = .error (.notFound n) := by
  have hf : r.get? n = none := by
    rwa [has_eq_isSome, Option.isSome_eq_false_iff, Option.isNone_iff_eq_none] at hn
  refine ⟨hf, ?_, ?_, fun records => ?_⟩
  · rw [lookup_eq, hf]
  · rw [named_eq, hf]
  · rw [serialize_eq, hf]

theorem Holds.formatName (h : Holds r fs) {s : Rendering} (hs : Rendering.named r n = .ok s) :
    s.formatName = n := by
  have hknown : r.has n = true ↔ ∃ s, Rendering.named r n = .ok s := (h.known n).out 1 4
  obtain ⟨f, -, hname, -, -, hf, -⟩ := h.latest (hknown.2 ⟨s, hs⟩)
  rw [hf] at hs
  cases hs
  exact hname

theorem Holds.formatName_configured (h : Holds r fs) {c : Config} {s : Rendering}
    (hs : c.rendering r = .ok s) : s.formatName = c.format := by
  rw [Config.rendering, Rendering.configured] at hs
  split at hs
  · next hformat =>
    cases hs
    exact hformat.symm
  · exact h.formatName hs

theorem rendering_eq_error_iff {c : Config} {e : FormatError} : c.rendering r = .error e ↔
    c.format ≠ "declarations" ∧ r.has c.format = false ∧ e = .notFound c.format := by
  rw [Config.rendering, Rendering.configured, named_eq, has_eq_isSome]
  by_cases hformat : c.format = "declarations"
  · simp [hformat]
  · cases r.get? c.format <;> simp [hformat, eq_comm]

end Answers

section Order

variable {r r' : Registry} {fs : List Formatter}

theorem names_pairwise_le (r : Registry) : r.names.Pairwise (· ≤ ·) := by
  have h : r.names.Pairwise fun a b => decide (a ≤ b) = true := by
    apply List.pairwise_mergeSort
    · intro a b c hab hbc
      simp only [decide_eq_true_eq] at *
      exact le_trans hab hbc
    · intro a b
      simpa using le_total a b
  exact h.imp of_decide_eq_true

theorem Holds.nodup_names (h : Holds r fs) : r.names.Nodup :=
  (List.mergeSort_perm _ _).nodup_iff.2 h.distinct

theorem Holds.sorted (h : Holds r fs) : (r.names.map Text.bytes).Pairwise (· < ·) := by
  have hlt : r.names.Pairwise (· < ·) :=
    (names_pairwise_le r).imp₂ (fun _ _ hle hne => lt_of_le_of_ne hle hne) h.nodup_names
  exact List.pairwise_map.2 (hlt.imp Text.bytes_lt)

theorem Holds.names_eq {gs : List Formatter} (h : Holds r fs) (h' : Holds r' gs)
    (hmem : ∀ n, n ∈ r.names ↔ n ∈ r'.names) : r.names = r'.names :=
  ((List.perm_ext_iff_of_nodup h.nodup_names h'.nodup_names).2 hmem).eq_of_pairwise
    (fun _ _ _ _ => le_antisymm) (names_pairwise_le r) (names_pairwise_le r')

theorem Holds.commute (h : Holds r fs) {f g : Formatter} (hfg : f.name ≠ g.name) :
    ((r.register f).register g).names = ((r.register g).register f).names ∧
      ∀ n, Alike ((r.register f).register g) ((r.register g).register f) n := by
  have halike (n : String) : Alike ((r.register f).register g) ((r.register g).register f) n := by
    apply Alike.of_get?
    simp only [get?_register]
    by_cases hn : n = g.name
    · rw [if_pos hn, if_neg (hn ▸ hfg.symm), if_pos hn]
    · rw [if_neg hn, if_neg hn]
  exact ⟨((h.register f).register g).names_eq ((h.register g).register f)
    fun n => (halike n).listed, halike⟩

end Order

theorem consistent_of_reached {r : Registry} {fs : List Formatter} (h : Reached r fs) :
    Consistent r fs where
  known := h.holds.known
  latest _ := h.holds.latest
  missing _ := missing
  named _ _ := h.holds.formatName
  configured _ _ := h.holds.formatName_configured
  refused _ _ := rendering_eq_error_iff
  sorted := h.holds.sorted
  unchanged f n hn := .of_get? (by rw [get?_register, if_neg hn])
  commute _ _ := h.holds.commute

theorem consistent_of_reached_replaced :
    Consistent (standard.register (Declarations.formatter 2)) (builtIn ++ [Declarations.formatter 2]) :=
  consistent_of_reached (.register _ .standard)

end WidgetLocator.Registry
