import WidgetLocator.Proofs.Token.Greedy
import WidgetLocator.Proofs.Token.Spelling

/-! Where tokens begin and what they depend on. Every character that is no blank begins a token,
except for a quote whose literal is left open. The token that is read there is the longest match, and
the longest match does not change when the text is cut off somewhere after it, nor when a text that
goes on after it gets longer. -/

namespace WidgetLocator.Token

open Text Lexeme

section Beginnings

variable {p : Pattern} {c : Char} {v w rest : List Char}

theorem isBlank_of_opens (h : p.opens c) : isBlank c = false := by
  have symbol {d : Char} (hd : isBlank d = false) (h : c == d) : isBlank c = false := by
    obtain rfl := eq_of_beq h
    exact hd
  cases p with
  | operator =>
    simp only [Pattern.opens, isOperatorChar, Bool.or_eq_true, beq_iff_eq] at h
    rcases h with ((rfl | rfl) | rfl) | rfl <;> rfl
  | axis => exact isBlank_of_isNameStart h
  | name =>
    rcases Bool.or_eq_true_iff.1 h with h | h
    · exact isBlank_of_isNameStart h
    · exact symbol rfl h
  | literal quote quotes =>
    simp only [isQuote, Bool.or_eq_true, beq_iff_eq] at quotes
    rcases quotes with rfl | rfl <;> exact symbol rfl h
  | _ => exact symbol rfl h

theorem first?_eq_none_iff (hc : isBlank c = false) :
    first? c rest = none ↔ isQuote c ∧ literalBody? c rest = none := by
  by_cases quote : isQuote c
  · simp [first?_of_isQuote quote, quote]
  by_cases start : isNameStart c
  · simp [first?_of_isNameStart start, quote]
  -- what is left are the symbols and the colon
  have hsymbol : isSymbol c ∨ c = ':' := by
    simp only [isNameStart, isNameChar, hc, quote] at start
    by_cases colon : c = ':'
    · exact .inr colon
    · simpa [colon] using start
  simp only [isSymbol, Bool.or_eq_true, beq_iff_eq] at hsymbol
  rcases hsymbol with ((((((((rfl | rfl) | rfl) | rfl) | rfl) | rfl) | rfl) | rfl) | rfl) | rfl <;>
    simp [first?, isOperatorChar, isQuote]

theorem exists_first? (hw : w ∈ p.language) (hp : w <+: c :: rest) : ∃ l, first? c rest = some l := by
  obtain ⟨d, v, rfl, hopens⟩ := p.exists_head hw
  obtain ⟨rfl, -⟩ := List.cons_prefix_cons.1 hp
  refine Option.ne_none_iff_exists'.1 fun missing => ?_
  obtain ⟨quote, hopen⟩ := (first?_eq_none_iff (isBlank_of_opens hopens)).1 missing
  obtain rfl := opens_quote quote hopens
  obtain ⟨body, hbody, hspelled⟩ := mem_literal.1 hw
  rw [hspelled] at hp
  rw [(literalBody?_eq_some_iff quote).2 ⟨hbody, (List.cons_prefix_cons.1 hp).2⟩] at hopen
  cases hopen

end Beginnings

section Prefixes

variable {p : Pattern} {c : Char} {v w w' : List Char}

theorem nameRest_of_beginning (h : w ∈ nameRest) (hp : v <+: w) : v ∈ nameRest := by
  induction w generalizing v with
  | nil => exact List.prefix_nil.1 hp ▸ h
  | cons c w ih =>
    cases v with
    | nil => exact nil_mem_nameRest
    | cons d v =>
      obtain ⟨rfl, hv⟩ := List.cons_prefix_cons.1 hp
      rcases cons_mem_nameRest.1 h with ⟨hchar, hw⟩ | ⟨rfl, rfl | hw⟩
      · exact (nameChar_cons_mem_nameRest hchar).2 (ih hw hv)
      · rwa [List.prefix_nil.1 hv]
      · obtain ⟨e, w, rfl, he, hw⟩ := mem_one_mul.1 hw
        cases v with
        | nil => exact colon_cons_mem_nameRest.2 (.inl rfl)
        | cons e' v =>
          have hrest := ih ((nameChar_cons_mem_nameRest he).2 hw) hv
          obtain ⟨rfl, -⟩ := List.cons_prefix_cons.1 hv
          exact colon_cons_mem_nameRest.2 (.inr ⟨he, hrest⟩)

theorem exists_pattern_of_name (hw : w ∈ Pattern.name.language) (hp : c :: v <+: w) :
    ∃ p : Pattern, c :: v ∈ p.language := by
  rcases mem_name.1 hw with ⟨d, w, rfl, hd, hrest⟩ | ⟨d, w, rfl, hd, hrest⟩
  · obtain ⟨rfl, hv⟩ := List.cons_prefix_cons.1 hp
    exact ⟨.name, mem_name.2 (.inl ⟨c, v, rfl, hd, nameRest_of_beginning hrest hv⟩)⟩
  · obtain ⟨rfl, hv⟩ := List.cons_prefix_cons.1 hp
    cases v with
    | nil => exact ⟨.colons, mem_colons.2 (by simp)⟩
    | cons e v =>
      obtain ⟨rfl, hv'⟩ := List.cons_prefix_cons.1 hv
      exact ⟨.name, mem_name.2 (.inr ⟨e, v, rfl, hd, nameRest_of_beginning hrest hv'⟩)⟩

/-- The beginning of a spelling is a spelling, unless it is a part of a literal. -/
theorem exists_pattern_of_beginning (hw : w ∈ p.language) (noLiteral : ¬ isQuote c) (hp : c :: v <+: w) :
    ∃ q : Pattern, c :: v ∈ q.language := by
  have symbol {d : Char} (h : c :: v <+: [d]) : c :: v = [d] := by
    obtain ⟨rfl, hv⟩ := List.cons_prefix_cons.1 h
    rw [List.prefix_nil.1 hv]
  have pair {d e : Char} (h : c :: v <+: [d, e]) : c :: v = [d] ∨ c :: v = [d, e] := by
    obtain ⟨rfl, hv⟩ := List.cons_prefix_cons.1 h
    rcases List.prefix_concat_iff.1 (show v <+: [] ++ [e] from hv) with rfl | hv
    · exact .inr rfl
    · rw [List.prefix_nil.1 hv]
      exact .inl rfl
  cases p with
  | slash | atSign | openBracket | closeBracket | wildcard =>
    obtain rfl := mem_word.1 hw
    exact ⟨_, symbol hp ▸ hw⟩
  | doubleSlash =>
    obtain rfl := mem_word.1 hw
    rcases pair hp with h | h
    · exact ⟨.slash, mem_word.2 h⟩
    · exact ⟨.doubleSlash, mem_word.2 h⟩
  | operator =>
    obtain ⟨d, hd, rfl | rfl⟩ := mem_operator.1 hw
    · exact ⟨.operator, symbol hp ▸ hw⟩
    · exact ⟨.operator, mem_operator.2 ⟨d, hd, pair hp⟩⟩
  | name => exact exists_pattern_of_name hw hp
  | axis =>
    obtain ⟨r, hr, rfl⟩ := mem_axis.1 hw
    obtain ⟨⟨d, hd, hstart⟩, hchars⟩ := mem_axisRun.1 hr
    obtain ⟨r, rfl⟩ := List.head?_eq_some_iff.1 hd
    have hcolons : d :: r ++ [':', ':'] = d :: r ++ [':'] ++ [':'] := by simp
    rw [hcolons] at hp hw
    rcases List.prefix_concat_iff.1 hp with heq | hp
    · exact ⟨.axis, heq ▸ hw⟩
    · refine exists_pattern_of_name (mem_name.2 (.inl ⟨d, r ++ [':'], rfl, hstart, ?_⟩)) hp
      have hrest : d :: r ++ [':'] ∈ nameRest := by
        have hscan : nameTail (d :: r ++ [':', ':']) = d :: r ++ [':'] := nameTail_run hchars
        exact hscan ▸ nameTail_mem _
      exact (nameChar_cons_mem_nameRest (hchars d (by simp))).1 hrest
  | colons =>
    obtain ⟨-, hall⟩ := mem_colons.1 hw
    exact ⟨.colons, mem_colons.2 ⟨by simp, fun d hd => hall d (hp.subset hd)⟩⟩
  | literal quote quotes =>
    obtain ⟨body, -, rfl⟩ := mem_literal.1 hw
    obtain ⟨rfl, -⟩ := List.cons_prefix_cons.1 hp
    exact absurd quotes noLiteral

/-- No literal is the beginning of another one. -/
theorem literal_eq_of_beginning {quotes : isQuote c} (hw : w ∈ (Pattern.literal c quotes).language)
    (hw' : w' ∈ (Pattern.literal c quotes).language) (hp : w <+: w') : w = w' := by
  obtain ⟨body, hbody, rfl⟩ := mem_literal.1 hw
  obtain ⟨body', hbody', rfl⟩ := mem_literal.1 hw'
  have hfound := (literalBody?_eq_some_iff quotes).2 ⟨hbody, (List.cons_prefix_cons.1 hp).2⟩
  have hfound' := (literalBody?_eq_some_iff quotes).2 ⟨hbody', List.prefix_refl _⟩
  rw [Option.some.inj (hfound.symm.trans hfound')]

end Prefixes

section Matches

variable {p : Pattern} {c : Char} {cs v w rest : List Char} {l l' : Lexeme}

theorem LongestMatch.unique (h : LongestMatch cs l) (h' : LongestMatch cs l') : l = l' := by
  obtain ⟨p, hp, hkind, htext⟩ := h.found
  obtain ⟨p', hp', -⟩ := h'.found
  have hspelling : l.spelling = l'.spelling :=
    List.IsPrefix.eq_of_length_le (h'.longest p _ hp h.spelled)
      (h.longest p' _ hp' h'.spelled).length_le
  obtain ⟨hkind', htext'⟩ := h'.reading (hspelling ▸ hp)
  obtain ⟨kind, text, spelling⟩ := l
  obtain ⟨kind', text', spelling'⟩ := l'
  simp only at *
  subst hspelling hkind hkind' htext htext'
  rfl

theorem first?_eq_some_iff (hc : isBlank c = false) :
    first? c rest = some l ↔ LongestMatch (c :: rest) l := by
  refine ⟨longestMatch_first? hc, fun h => ?_⟩
  obtain ⟨p, hp, -⟩ := h.found
  obtain ⟨l', hl'⟩ := exists_first? hp h.spelled
  rw [hl', (longestMatch_first? hc hl').unique h]

theorem first?_spelling (h : c :: v ∈ p.language) :
    first? c v = some ⟨p.kind, p.text (c :: v), c :: v⟩ := by
  obtain ⟨l, hl⟩ := exists_first? h (List.prefix_refl _)
  obtain ⟨d, _, hcv, hopens⟩ := p.exists_head h
  obtain ⟨rfl, -⟩ := List.cons.inj hcv
  have hlongest := longestMatch_first? (isBlank_of_opens hopens) hl
  have hspelling : c :: v = l.spelling :=
    List.IsPrefix.eq_of_length_le (hlongest.longest p _ h (List.prefix_refl _))
      hlongest.spelled.length_le
  rw [hspelling] at h ⊢
  obtain ⟨hkind, htext⟩ := hlongest.reading h
  rw [hl, ← hkind, ← htext]

theorem LongestMatch.cut {before after : List Char} (h : LongestMatch (l.spelling ++ (before ++ after)) l) :
    LongestMatch (l.spelling ++ before) l := by
  refine ⟨List.prefix_append _ _, h.found, fun p w hw hp => ?_, h.same_kind⟩
  exact h.longest p w hw (hp.trans (by simp))

/-- A text that goes on after its longest match can get longer without a longer match. -/
theorem LongestMatch.extend (h : LongestMatch cs l) (hends : l.spelling ≠ cs) (after : List Char) :
    LongestMatch (cs ++ after) l := by
  refine ⟨h.spelled.trans (List.prefix_append _ _), h.found, fun p w hw hp => ?_, h.same_kind⟩
  rcases List.prefix_or_prefix_of_prefix hp (List.prefix_append cs after) with hp | hp
  · exact h.longest p w hw hp
  · obtain ⟨q, hq, -⟩ := h.found
    obtain ⟨c, v, hs, hopens⟩ := q.exists_head hq
    obtain ⟨rest, rfl⟩ : ∃ rest, cs = c :: rest := by
      obtain ⟨r, rfl⟩ := h.spelled
      exact ⟨v ++ r, by rw [hs, List.cons_append]⟩
    by_cases quote : isQuote c
    · obtain rfl := opens_quote quote hopens
      obtain ⟨d, w, rfl, hopens'⟩ := p.exists_head hw
      obtain ⟨rfl, -⟩ := List.cons_prefix_cons.1 hp
      obtain rfl := opens_quote quote hopens'
      rw [literal_eq_of_beginning hq hw (h.spelled.trans hp)]
    · -- the whole text would be a spelling of its own
      obtain ⟨q', hq'⟩ := exists_pattern_of_beginning hw quote hp
      have hwhole := h.longest q' _ hq' (List.prefix_refl _)
      exact absurd (h.spelled.eq_of_length_le hwhole.length_le) hends

end Matches

end WidgetLocator.Token
