import WidgetLocator.Proofs.Token.Layout

/-! The reading of a text is greedy: at the place of each token no pattern matches more of the text
than the spelling of the token, and a literal ends at the first quote of its own kind that no
backslash escapes. -/

namespace WidgetLocator.Token

open Text

/-- Whether the last character of the text is a backslash that escapes what comes after it. -/
def escapes (cs : List Char) : Bool := cs.foldl (fun escaped c => !escaped && c == '\\') false

/-- The quote after the body is the first one in the text that nothing escapes. -/
structure FirstUnescaped (quote : Char) (body text : List Char) : Prop where
  stands : body ++ [quote] <+: text
  unescaped : escapes body = false
  first : ∀ b, b ++ [quote] <+: text → escapes b = false → body.length ≤ b.length

section Escapes

variable {quote c : Char} {w cs body text : List Char}

theorem escapes_cons (hc : c ≠ '\\') : escapes (c :: w) = escapes w := by
  simp [escapes, beq_false_of_ne hc]

theorem escapes_backslash_cons : escapes ('\\' :: c :: w) = escapes w := by
  simp [escapes]

theorem escapes_of_enclosed (hq : isQuote quote) (h : w ∈ enclosed quote) :
    escapes w = false ∧ ∀ b, b ++ [quote] <+: w → escapes b := by
  have hne := ne_backslash_of_isQuote hq
  fun_induction Lexeme.literalBody? quote w with
  | case1 => exact ⟨rfl, fun b hb => by simp at hb⟩
  | case2 c rest ih =>
    obtain ⟨d, v, hv, h⟩ := backslash_cons_mem_enclosed.1 h
    obtain ⟨rfl, rfl⟩ := List.cons.inj hv
    obtain ⟨hrest, hquotes⟩ := ih h
    refine ⟨escapes_backslash_cons.trans hrest, fun b hb => ?_⟩
    rcases b with _ | ⟨d, _ | ⟨e, b⟩⟩
    · exact absurd (List.cons_prefix_cons.1 hb).1 hne
    · obtain ⟨rfl, -⟩ := List.cons_prefix_cons.1 hb
      rfl
    · obtain ⟨rfl, hb₁⟩ := List.cons_prefix_cons.1 hb
      obtain ⟨rfl, hb₂⟩ := List.cons_prefix_cons.1 hb₁
      exact escapes_backslash_cons.trans (hquotes b hb₂)
  | case3 rest => exact absurd rfl ((cons_mem_enclosed hne).1 h).1
  | case4 c rest lone hc ih =>
    by_cases escape : c = '\\'
    · subst escape
      obtain ⟨d, v, rfl, -⟩ := backslash_cons_mem_enclosed.1 h
      exact (lone d v rfl rfl).elim
    · obtain ⟨hrest, hquotes⟩ := ih ((cons_mem_enclosed escape).1 h).2
      refine ⟨(escapes_cons escape).trans hrest, fun b hb => ?_⟩
      cases b with
      | nil => exact absurd (List.cons_prefix_cons.1 hb).1.symm hc
      | cons d b =>
        obtain ⟨rfl, hb₁⟩ := List.cons_prefix_cons.1 hb
        exact (escapes_cons escape).trans (hquotes b hb₁)

theorem literalBody?_eq_none_iff (hq : isQuote quote) :
    Lexeme.literalBody? quote cs = none ↔ ∀ b, b ++ [quote] <+: cs → escapes b := by
  have hne := ne_backslash_of_isQuote hq
  constructor
  · intro h b hb
    fun_induction Lexeme.literalBody? quote cs generalizing b with
    | case1 => simp at hb
    | case2 c rest ih =>
      rcases b with _ | ⟨d, _ | ⟨e, b⟩⟩
      · exact absurd (List.cons_prefix_cons.1 hb).1 hne
      · obtain ⟨rfl, -⟩ := List.cons_prefix_cons.1 hb
        rfl
      · obtain ⟨rfl, hb₁⟩ := List.cons_prefix_cons.1 hb
        obtain ⟨rfl, hb₂⟩ := List.cons_prefix_cons.1 hb₁
        exact escapes_backslash_cons.trans (ih (Option.map_eq_none_iff.1 h) b hb₂)
    | case3 rest => cases h
    | case4 c rest lone hc ih =>
      cases b with
      | nil => exact absurd (List.cons_prefix_cons.1 hb).1.symm hc
      | cons d b =>
        obtain ⟨rfl, hb₁⟩ := List.cons_prefix_cons.1 hb
        cases rest with
        | nil => simp at hb₁
        | cons e v =>
          have hd : d ≠ '\\' := fun hd => lone e v hd rfl
          exact (escapes_cons hd).trans (ih (Option.map_eq_none_iff.1 h) b hb₁)
  · intro h
    cases found : Lexeme.literalBody? quote cs with
    | none => rfl
    | some body =>
      obtain ⟨hbody, hp⟩ := (literalBody?_eq_some_iff hq).1 found
      exact absurd (h body hp) (by simp [(escapes_of_enclosed hq hbody).1])

/-- A text can be enclosed if it escapes every quote in it and nothing after it. -/
theorem mem_enclosed_iff (hq : isQuote quote) :
    w ∈ enclosed quote ↔ escapes w = false ∧ ∀ b, b ++ [quote] <+: w → escapes b := by
  refine ⟨escapes_of_enclosed hq, fun h => ?_⟩
  obtain ⟨hw, hquotes⟩ := h
  cases found : Lexeme.literalBody? quote (w ++ [quote]) with
  | none =>
    have hescapes := (literalBody?_eq_none_iff hq).1 found w (List.prefix_refl _)
    exact absurd hescapes (by simp [hw])
  | some body =>
    obtain ⟨hbody, hp⟩ := (literalBody?_eq_some_iff hq).1 found
    rcases List.prefix_concat_iff.1 hp with heq | inside
    · rwa [← List.append_inj_left' heq rfl]
    · exact absurd (hquotes body inside) (by simp [(escapes_of_enclosed hq hbody).1])

theorem firstUnescaped_of_enclosed (hq : isQuote quote) (h : body ∈ enclosed quote)
    (hp : body ++ [quote] <+: text) : FirstUnescaped quote body text := by
  obtain ⟨hbody, hquotes⟩ := escapes_of_enclosed hq h
  refine ⟨hp, hbody, fun b hb unescaped => ?_⟩
  by_contra shorter
  have inside : b ++ [quote] <+: body := by
    have hb' : b ++ [quote] <+: body ++ [quote] :=
      List.prefix_of_prefix_length_le hb hp (by simp only [List.length_append]; omega)
    exact List.prefix_of_prefix_length_le hb' (List.prefix_append _ _) (by simp; omega)
  exact absurd (hquotes b inside) (by simp [unescaped])

end Escapes

section Texts

variable {w : List Char}

/-- Two colons never follow one another in a name. -/
theorem not_infix_of_mem_nameRest (h : w ∈ nameRest) : ¬ [':', ':'] <:+: w := by
  induction w with
  | nil => simp
  | cons c w ih =>
    rw [List.infix_cons_iff]
    by_cases hc : c = ':'
    · subst hc
      rcases colon_cons_mem_nameRest.1 h with rfl | ⟨next, hw⟩
      · simp
      · intro h
        rcases h with hp | hi
        · obtain ⟨r, rfl⟩ := (List.cons_prefix_cons.1 hp).2
          simp [isNameChar] at next
        · exact ih hw hi
    · have hchar : isNameChar c := by
        by_contra hchar
        exact notMem_nameRest hchar hc h
      intro h
      rcases h with hp | hi
      · exact hc (List.cons_prefix_cons.1 hp).1.symm
      · exact ih ((nameChar_cons_mem_nameRest hchar).1 h) hi

theorem colon_notMem_of_axisRun (h : w ∈ axisRun) : ':' ∉ w :=
  fun hc => ne_colon_of_isNameChar ((mem_axisRun.1 h).2 _ hc) rfl

end Texts

/-- At the place of each token its spelling is the longest that a pattern matches there. -/
structure Greedy (source : String) (tokens : List Token) (ps : List Placed) (last : List Char) :
    Prop where
  tokens_eq : tokens = ps.map (·.token) ++ [endAt source.utf8ByteSize]
  nonempty : ∀ p ∈ ps, p.token.kind ≠ .finish ∧ p.spelling ≠ []
  placed : ∀ xs p ys, ps = xs ++ p :: ys →
    source.toList = layoutText xs p.gap ++ (p.spelling ++ layoutText ys last) ∧
      p.token.offset = String.utf8Len (layoutText xs p.gap)
  longest : ∀ xs p ys, ps = xs ++ p :: ys → ∀ (q : Pattern) (w : List Char), w ∈ q.language →
    w <+: p.spelling ++ layoutText ys last → w <+: p.spelling
  matched : ∀ p ∈ ps, ∃ q : Pattern, p.spelling ∈ q.language
  reading : ∀ p ∈ ps, ∀ q : Pattern, p.spelling ∈ q.language →
    p.token.kind = q.kind ∧ p.token.text.toList = q.text p.spelling
  quoted : ∀ xs p ys, ps = xs ++ p :: ys → ∀ quote rest, isQuote quote → p.spelling = quote :: rest →
    p.token.kind = .literal ∧ p.spelling = quote :: p.token.text.toList ++ [quote] ∧
      FirstUnescaped quote p.token.text.toList (rest ++ layoutText ys last)
  tags : ∀ p ∈ ps, p.token.kind = .tag → [':', ':'] <:+: p.token.text.toList →
    ∀ c ∈ p.token.text.toList, c = ':'
  axes : ∀ p ∈ ps, p.token.kind = .axis → ':' ∉ p.token.text.toList
  neighbours : ∀ xs p p' ys, ps = xs ++ p :: p' :: ys → ∀ q : Pattern,
    p.spelling ++ (p'.gap ++ p'.spelling) ∉ q.language

section Longest

variable {cs : List Char} {l : Lexeme}

theorem LongestMatch.reading (h : LongestMatch cs l) {q : Pattern} (hq : l.spelling ∈ q.language) :
    l.kind = q.kind ∧ l.text = q.text l.spelling := by
  obtain ⟨p, -, hkind, htext⟩ := h.found
  have hsame := h.same_kind q hq
  exact ⟨hsame.symm, htext ▸ Pattern.text_eq_of_kind_eq (hkind.trans hsame.symm) _⟩

theorem LongestMatch.quoted {quote : Char} {rest after : List Char}
    (h : LongestMatch (l.spelling ++ after) l) (hq : isQuote quote) (hs : l.spelling = quote :: rest) :
    l.kind = .literal ∧ l.spelling = quote :: l.text ++ [quote] ∧
      FirstUnescaped quote l.text (rest ++ after) := by
  obtain ⟨p, hp, hkind, htext⟩ := h.found
  obtain ⟨c, v, hv, hopens⟩ := p.exists_head hp
  obtain ⟨rfl, rfl⟩ := List.cons.inj (hs.symm.trans hv)
  obtain rfl := opens_quote hq hopens
  obtain ⟨body, hbody, hspelled⟩ := mem_literal.1 hp
  obtain rfl : body = l.text := by
    rw [← htext, hspelled, Pattern.text_literal]
  refine ⟨hkind.symm, hspelled, firstUnescaped_of_enclosed hq hbody ?_⟩
  obtain rfl : rest = l.text ++ [quote] := (List.cons.inj (hs.symm.trans hspelled)).2
  exact List.prefix_append _ _

theorem LongestMatch.tag (h : LongestMatch cs l) (hkind : l.kind = .tag)
    (hcolons : [':', ':'] <:+: l.text) : ∀ c ∈ l.text, c = ':' := by
  obtain ⟨p, hp, hp', htext⟩ := h.found
  rcases Pattern.name_or_colons_of_kind (hp'.trans hkind) with rfl | rfl
  · rw [← htext] at hcolons
    exact (not_infix_of_mem_nameRest (mem_nameRest_of_name hp) hcolons).elim
  · rw [← htext]
    exact (mem_colons.1 hp).2

theorem LongestMatch.axis (h : LongestMatch cs l) (hkind : l.kind = .axis) : ':' ∉ l.text := by
  obtain ⟨p, hp, hp', htext⟩ := h.found
  obtain rfl := Pattern.eq_axis_of_kind (hp'.trans hkind)
  obtain ⟨r, hr, hspelled⟩ := mem_axis.1 hp
  rw [← htext, hspelled, Pattern.text_axis]
  exact colon_notMem_of_axisRun hr

end Longest

/-- The token after another one is no part of what a pattern matches at the first. -/
theorem Layout.neighbours {o : Nat} {xs ys : List Placed} {p p' : Placed} {last : List Char}
    (h : Layout o (xs ++ p :: p' :: ys) last) (q : Pattern) :
    p.spelling ++ (p'.gap ++ p'.spelling) ∉ q.language := by
  intro hq
  obtain ⟨-, -, hlongest, hnext⟩ := h.split
  have hp' : p'.spelling ≠ [] := by
    cases hnext with
    | next _ _ hlongest' _ => exact hlongest'.spelling_ne_nil
  have hwithin : p.spelling ++ (p'.gap ++ p'.spelling) <+: p.spelling :=
    hlongest.longest q _ hq (by simp)
  have hlength := hwithin.length_le
  simp only [List.length_append] at hlength
  exact hp' (List.length_eq_zero_iff.1 (by omega))

theorem tokenize_greedy {source : String} {tokens : List Token} (h : tokenize source = .ok tokens) :
    ∃ ps last, Greedy source tokens ps last := by
  obtain ⟨ps, last, hps, htext, rfl⟩ := exists_layout_of_tokenize h
  have split {xs p ys} (hsplit : ps = xs ++ p :: ys) :
      p.start = String.utf8Len (layoutText xs p.gap) ∧
        LongestMatch (p.spelling ++ layoutText ys last) p.lexeme := by
    subst hsplit
    obtain ⟨-, hstart, hlongest, -⟩ := hps.split
    exact ⟨by rw [hstart, Nat.zero_add], hlongest⟩
  refine ⟨ps, last, ⟨rfl, ?_, ?_, ?_, ?_, ?_, ?_, ?_, ?_, ?_⟩⟩
  · intro p hp
    obtain ⟨after, hlongest⟩ := hps.longest hp
    obtain ⟨q, -, hkind, -⟩ := hlongest.found
    have hfinish : p.lexeme.kind ≠ .finish := hkind ▸ q.kind_ne.1
    exact ⟨hfinish, hlongest.spelling_ne_nil⟩
  · intro xs p ys hsplit
    rw [← layoutText_gap, ← layoutText_cons, ← layoutText_append, ← hsplit]
    exact ⟨htext.symm, (split hsplit).1⟩
  · exact fun xs p ys hsplit => (split hsplit).2.longest
  · intro p hp
    obtain ⟨after, hlongest⟩ := hps.longest hp
    obtain ⟨q, hq, -⟩ := hlongest.found
    exact ⟨q, hq⟩
  · intro p hp q hq
    obtain ⟨after, hlongest⟩ := hps.longest hp
    exact hlongest.reading hq
  · intro xs p ys hsplit quote rest hquote hs
    exact LongestMatch.quoted (l := p.lexeme) (split hsplit).2 hquote hs
  · intro p hp
    obtain ⟨after, hlongest⟩ := hps.longest hp
    exact hlongest.tag
  · intro p hp
    obtain ⟨after, hlongest⟩ := hps.longest hp
    exact hlongest.axis
  · rintro xs p p' ys rfl
    exact hps.neighbours

theorem tokenize_greedy_colons : ∃ ps last,
    Greedy "a:b::c a:::b ::a :'x\" a:/ \"\\\"é\\\\\"//!=="
      [⟨.tag, "a:b:", 0⟩, ⟨.tag, ":c", 4⟩, ⟨.axis, "a", 7⟩, ⟨.tag, ":b", 10⟩, ⟨.tag, "::", 13⟩,
        ⟨.tag, "a", 15⟩, ⟨.tag, ":'x\"", 17⟩, ⟨.tag, "a:", 22⟩, ⟨.slash, "/", 24⟩,
        ⟨.literal, "\\\"é\\\\", 26⟩, ⟨.slash, "//", 34⟩, ⟨.operator, "!=", 36⟩,
        ⟨.operator, "=", 38⟩, ⟨.finish, "", 39⟩] ps last :=
  tokenize_greedy (by decide +kernel)

end WidgetLocator.Token
