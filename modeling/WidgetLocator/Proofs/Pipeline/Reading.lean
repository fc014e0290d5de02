import WidgetLocator.Pipeline.Basic
import WidgetLocator.Proofs.Path.Parsing
import WidgetLocator.Proofs.Token.Spelling

/-! Reading a source: its tokens first, then the steps that they spell. The tokens of a source are
followed by one end marker, so the parser reads all of them and nothing else. -/

namespace WidgetLocator.Path

open Text Token Grammar

theorem parseExpression_of_tokenize {source : String} {ts : List Token} (h : tokenize source = .ok ts) :
    parseExpression source = (parse ts).mapError .parse := by
  rw [parseExpression, h]
  rfl

theorem parseExpression_eq_ok_iff {source : String} {ss : List Step} :
    parseExpression source = .ok ss ↔ ∃ ts, tokenize source = .ok ts ∧ parse ts = .ok ss := by
  rw [parseExpression, bind_eq_ok_iff]
  simp only [mapError_eq_ok_iff]

theorem parseExpression_eq_error_iff {source : String} {e : PipelineError} :
    parseExpression source = .error e ↔ (∃ cause, tokenize source = .error cause ∧ .lex cause = e) ∨
      ∃ ts cause, tokenize source = .ok ts ∧ parse ts = .error cause ∧ .parse cause = e := by
  rw [parseExpression, bind_eq_error_iff]
  simp only [mapError_eq_error_iff, mapError_eq_ok_iff]
  refine or_congr_right ⟨?_, ?_⟩
  · rintro ⟨ts, hts, cause, hcause, he⟩
    exact ⟨ts, cause, hts, hcause, he⟩
  · rintro ⟨ts, cause, hts, hcause, he⟩
    exact ⟨ts, hts, cause, hcause, he⟩

theorem locate_eq_ok_iff {source : String} {records : List Record} : locate source = .ok records ↔
    ∃ steps, parseExpression source = .ok steps ∧ Record.ofSteps .heuristic steps = records := by
  rw [locate, bind_eq_ok_iff]
  simp only [pure, Except.pure, Except.ok.injEq]

/-- Only the reading of the source can fail. -/
theorem locate_eq_error_iff {source : String} {e : PipelineError} :
    locate source = .error e ↔ parseExpression source = .error e := by
  rw [locate, bind_eq_error_iff]
  simp only [pure, Except.pure, reduceCtorEq, and_false, exists_false, or_false]

theorem standard_locate (source : String) :
    Pipeline.standard.locate source = (parseExpression source).map (Record.ofSteps .heuristic) := by
  simp only [Pipeline.locate, Pipeline.standard, parseExpression, bind, Except.bind]
  cases (tokenize source).mapError PipelineError.lex with
  | error e => rfl
  | ok ts => cases h : (parse ts).mapError PipelineError.parse <;> simp [h, Except.map]

/-- A token that some pattern finds in some text. -/
def Found (t : Token) : Prop :=
  ∃ (p : Pattern) (w : List Char), w ∈ p.language ∧ p.kind = t.kind ∧ p.text w = t.text.toList

theorem body_of_tokenize {source : String} {ts : List Token} (h : tokenize source = .ok ts) :
    ts = body ts ++ [endAt source.utf8ByteSize] ∧ ∀ t ∈ body ts, Found t := by
  obtain ⟨ps, last, hps, -, rfl⟩ := exists_layout_of_tokenize h
  have hfound : ∀ t ∈ ps.map (·.token), Found t := by
    intro t ht
    obtain ⟨p, hp, rfl⟩ := List.mem_map.1 ht
    obtain ⟨after, hlongest⟩ := hps.longest hp
    obtain ⟨q, hq⟩ := hlongest.found
    exact ⟨q, _, hq⟩
  have hkinds : ∀ t ∈ ps.map (·.token), (t.kind != .finish) = true := by
    intro t ht
    obtain ⟨p, -, -, hkind, -⟩ := hfound t ht
    rw [← hkind, bne_iff_ne]
    exact p.kind_ne.1
  have hbody : body (ps.map (·.token) ++ [endAt source.utf8ByteSize]) = ps.map (·.token) := by
    rw [body, List.takeWhile_append_of_pos hkinds]
    simp [endAt]
  rw [hbody]
  exact ⟨rfl, hfound⟩

/-- How a source ends is settled by the tokens that its text reads as. -/
theorem parseExpression_of_readsAs {source : String} {ts : List Token}
    (h : ReadsAs 0 source.toList [] ts) :
    ∃ stop, parseExpression source = (readSteps stop ts).mapError .parse := by
  have hscan := h _ .finish
  rw [List.append_nil, ← scan_eq_ok_iff] at hscan
  have hbody : body (ts ++ [endAt (0 + String.utf8Len source.toList)]) = ts :=
    (List.append_inj_left' (body_of_tokenize hscan).1 rfl).symm
  refine ⟨stopOffset (ts ++ [endAt (0 + String.utf8Len source.toList)]), ?_⟩
  rw [parseExpression_of_tokenize hscan, parse_eq, hbody]

end WidgetLocator.Path
