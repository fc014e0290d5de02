import WidgetLocator.Proofs.Path.ErrorPlace
import WidgetLocator.Proofs.Report.Place
import WidgetLocator.Proofs.Token.Unterminated

/-! The offsets of errors. Whatever makes a path fail stands at a boundary between two characters: a
token that cannot follow those before it, a quote that opens a literal and is never closed, or the end
of the source. So the context of an error shows the place of its offset and none before it. -/

namespace WidgetLocator.Report

open WidgetLocator.Path Text Token

/-- Where the offset of an error stands. -/
inductive Cause (source : String) (o : Nat) : Prop
  | token {ts : List Token} {t : Token} {w : List Char} : tokenize source = .ok ts → t ∈ ts →
      t.Spells w → t.offset = o → Slice source o (o + String.utf8Len w) (String.ofList w) → Cause source o
  | quote {q : Char} : tokenize source = .error (.unterminatedLiteral o) → isQuote q →
      Slice source o (o + q.utf8Size) (String.singleton q) → Cause source o
  | finish : o = source.utf8ByteSize → Cause source o

section Failures

variable {source : String} {ts : List Token} {t : Token} {e : PipelineError}

theorem cause_of_lex {cause : LexError} (h : tokenize source = .error cause) :
    Cause source cause.offset := by
  obtain ⟨before, quote, rest, ts, hsource, hquote, -, rfl, -⟩ := scan_eq_error h
  rw [Nat.zero_add] at h ⊢
  have hslice := @slice_of_toList source before rest [quote] hsource
  exact .quote h hquote (by simpa [LexError.offset] using hslice)

theorem cause_of_token (h : tokenize source = .ok ts) (ht : t ∈ ts) : Cause source t.offset := by
  obtain ⟨ps, last, hps, htext, hts⟩ := exists_layout_of_tokenize h
  rw [hts, List.mem_append, List.mem_singleton] at ht
  rcases ht with ht | rfl
  · obtain ⟨p, hp, rfl⟩ := List.mem_map.1 ht
    obtain ⟨xs, ys, rfl⟩ := List.append_of_mem hp
    obtain ⟨-, hstart, hlongest, -⟩ := hps.split
    obtain ⟨q, hq, hkind, hfound⟩ := hlongest.found
    rw [layoutText_append, layoutText_cons, layoutText_gap] at htext
    have hslice := slice_of_toList htext.symm
    rw [Nat.zero_add] at hstart
    rw [← hstart] at hslice
    exact .token h (by rw [hts]; simp) (q.spells hq hkind hfound) rfl hslice
  · exact .finish rfl

/-- The parser fails at a token, the end marker included. -/
theorem exists_token_of_parse {cause : ParseError} (h : tokenize source = .ok ts)
    (hparse : parse ts = .error cause) : ∃ t ∈ ts, t.offset = cause.offset := by
  obtain ⟨hts, hfound⟩ := body_of_tokenize h
  have hkinds : ∀ t ∈ body ts, t.kind ≠ .finish := by
    intro t ht
    obtain ⟨q, w, -, hkind, -⟩ := hfound t ht
    exact hkind ▸ q.kind_ne.1
  rw [hts, parse_append hkinds rfl] at hparse
  obtain ⟨taken, rest, hrest, hfails, -⟩ := readSteps_fails hparse
  rw [hfails.offset]
  cases rest with
  | nil => exact ⟨endAt source.utf8ByteSize, by rw [hts]; simp, rfl⟩
  | cons t rest => exact ⟨t, by rw [hts, hrest]; simp, rfl⟩

theorem cause_of_locate (h : locate source = .error e) : ∃ o, e.offset? = some o ∧ Cause source o := by
  rw [locate_eq_error_iff, parseExpression_eq_error_iff] at h
  rcases h with ⟨cause, hlex, rfl⟩ | ⟨ts, cause, hts, hparse, rfl⟩
  · exact ⟨cause.offset, rfl, cause_of_lex hlex⟩
  · obtain ⟨t, ht, hoffset⟩ := exists_token_of_parse hts hparse
    exact ⟨cause.offset, rfl, hoffset ▸ cause_of_token hts ht⟩

theorem Cause.isBoundary {o : Nat} (h : Cause source o) : IsBoundary source o := by
  cases h with
  | token _ _ _ _ hslice => exact hslice.isBoundary
  | quote _ _ hslice => exact hslice.isBoundary
  | finish hend => exact isBoundary_iff.2 ⟨source, "", by simp, hend⟩

end Failures

/-- The source is never cut inside a character. The context of any offset shows the line that the last
boundary up to the offset is in, under its number, and the caret after as many spaces as the line has
characters before that boundary. If the line goes on there, it does so with the character that stands at
the boundary. The offset of an error is a boundary itself. -/
theorem sourceContext_shows_place (source : String) :
    (∀ o, ∃ p : Place, p.Marks source o ∧ (∀ q : Place, q.Marks source o → q = p) ∧ p.Cuts source ∧
      sourceContext? source o = some (sourceContext source o) ∧
      sourceContext source o = p.firstLine ++ "\n" ++ p.secondLine ++ "\n" ∧
      p.column ≤ p.line.length ∧
      (p.column < p.line.length → ∃ c, p.line.toList[p.column]? = some c ∧
        Slice source p.offset (p.offset + c.utf8Size) (String.singleton c))) ∧
    ∀ e, locate source = .error e → ∃ o, e.offset? = some o ∧ Cause source o ∧ IsBoundary source o ∧
      ∀ p : Place, p.Marks source o → p.offset = o := by
  refine ⟨fun o => ?_, fun e he => ?_⟩
  · obtain ⟨p, hp⟩ := exists_place source o
    refine ⟨p, hp, fun q hq => hq.unique hp, hp.cuts, ?_, hp.context_eq, ?_, hp.exists_char⟩
    · rw [hp.context_eq, hp.sourceContext?_eq]
    rw [Place.line, String.length_append]
    exact Nat.le_add_right _ _
  · obtain ⟨o, ho, hcause⟩ := cause_of_locate he
    have hboundary := hcause.isBoundary
    refine ⟨o, ho, hcause, hboundary, fun p hp => hp.greatest.unique ⟨?_, fun b hb => ?_⟩⟩
    · exact ⟨hboundary, le_min (Nat.le_refl o) hboundary.le⟩
    · exact hb.2.trans (Nat.min_le_left _ _)

/-- A bracket in place of a step, in a line that begins with a character of two bytes. -/
theorem sourceContext_shows_place_bracket : ∃ p : Place,
    p = ⟨"form\n", "é/", "[", ""⟩ ∧ p.Marks "form\né/[" 8 ∧ p.column < p.line.length ∧
    locate "form\né/[" = .error (.parse (.noNodeTest 8 "'['")) ∧ p.offset = 8 ∧
    ∃ c, p.line.toList[p.column]? = some c ∧
      Slice "form\né/[" p.offset (p.offset + c.utf8Size) (String.singleton c) := by
  have hmarks : (⟨"form\n", "é/", "[", ""⟩ : Place).Marks "form\né/[" 8 := by
    have hself := Place.marks_self ⟨"form\n", "é/", "[", ""⟩ (.inr ⟨"form", by decide +kernel⟩)
      (.inl rfl) (by decide +kernel)
    have hsource : "form\n" ++ "é/" ++ "[" ++ "" = "form\né/[" := by decide +kernel
    have hoffset : (⟨"form\n", "é/", "[", ""⟩ : Place).offset = 8 := by decide +kernel
    rwa [hoffset, hsource] at hself
  have htokens : tokenize "form\né/[" =
      .ok [⟨.tag, "form", 0⟩, ⟨.tag, "é", 5⟩, ⟨.slash, "/", 7⟩, ⟨.openBracket, "[", 8⟩, endAt 9] := by
    decide +kernel
  have herror : locate "form\né/[" = .error (.parse (.noNodeTest 8 "'['")) :=
    locate_eq_error_iff.2 (parseExpression_eq_error_iff.2 (.inr ⟨_, _, htokens, by decide +kernel, rfl⟩))
  obtain ⟨hshows, herrors⟩ := sourceContext_shows_place "form\né/["
  obtain ⟨p, -, hunique, -, -, -, -, hchar⟩ := hshows 8
  obtain rfl := hunique _ hmarks
  obtain ⟨o, ho, -, -, hoffset⟩ := herrors _ herror
  obtain rfl : 8 = o := Option.some.inj ho
  have hcolumn : (⟨"form\n", "é/", "[", ""⟩ : Place).column <
      (⟨"form\n", "é/", "[", ""⟩ : Place).line.length := by decide +kernel
  exact ⟨_, rfl, hmarks, hcolumn, herror, hoffset _ hmarks, hchar hcolumn⟩

end WidgetLocator.Report
