import WidgetLocator.Proofs.Token.Pattern

/-! The lexer takes the longest match. At a place where no blank stands the token that is read is
spelled by the longest prefix that any pattern matches, and all patterns that match it give the same
kind. The first character leaves two patterns to compare at most. -/

namespace WidgetLocator.Token

open Lexeme

/-- The lexeme is what the token table finds at the head of the text. -/
structure LongestMatch (cs : List Char) (l : Lexeme) : Prop where
  spelled : l.spelling <+: cs
  found : ∃ p : Pattern, l.spelling ∈ p.language ∧ p.kind = l.kind ∧ p.text l.spelling = l.text
  longest : ∀ (p : Pattern) (w : List Char), w ∈ p.language → w <+: cs → w <+: l.spelling
  same_kind : ∀ p : Pattern, l.spelling ∈ p.language → p.kind = l.kind

variable {c : Char} {p : Pattern} {w rest : List Char}

section Heads

theorem opens_colon (hp : p.opens ':') : p = .name ∨ p = .colons := by
  cases p with
  | name => exact .inl rfl
  | colons => exact .inr rfl
  | literal quote quotes =>
    obtain rfl := eq_of_beq hp
    exact absurd quotes (by decide)
  | _ => exact absurd hp (by decide)

theorem opens_slash (hp : p.opens '/') : p = .doubleSlash ∨ p = .slash := by
  cases p with
  | doubleSlash => exact .inl rfl
  | slash => exact .inr rfl
  | literal quote quotes =>
    obtain rfl := eq_of_beq hp
    exact absurd quotes (by decide)
  | _ => exact absurd hp (by decide)

theorem opens_operator (hc : isOperatorChar c) (hp : p.opens c) : p = .operator := by
  simp only [isOperatorChar, Bool.or_eq_true, beq_iff_eq] at hc
  cases p with
  | operator => rfl
  | literal quote quotes =>
    obtain rfl := eq_of_beq hp
    rcases hc with ((rfl | rfl) | rfl) | rfl <;> exact absurd quotes (by decide)
  | _ => rcases hc with ((rfl | rfl) | rfl) | rfl <;> exact absurd hp (by decide)

theorem opens_quote (hc : isQuote c) (hp : p.opens c) : p = .literal c hc := by
  cases p with
  | literal quote quotes =>
    obtain rfl := eq_of_beq hp
    rfl
  | _ =>
    simp only [isQuote, Bool.or_eq_true, beq_iff_eq] at hc
    rcases hc with rfl | rfl <;> exact absurd hp (by decide)

theorem opens_symbol (hc : c ∈ ['@', '[', ']', '*']) (hp : p.opens c) :
    (c, p) ∈ [('@', .atSign), ('[', .openBracket), (']', .closeBracket), ('*', Pattern.wildcard)] := by
  simp only [List.mem_cons, List.not_mem_nil, or_false] at hc
  cases p with
  | atSign | openBracket | closeBracket | wildcard => obtain rfl := eq_of_beq hp; simp
  | literal quote quotes =>
    obtain rfl := eq_of_beq hp
    rcases hc with rfl | rfl | rfl | rfl <;> exact absurd quotes (by decide)
  | _ => rcases hc with rfl | rfl | rfl | rfl <;> exact absurd hp (by decide)

theorem opens_nameStart (hc : isNameStart c) (hp : p.opens c) : p = .axis ∨ p = .name := by
  cases p with
  | axis => exact .inl rfl
  | name => exact .inr rfl
  | literal quote quotes =>
    obtain rfl := eq_of_beq hp
    simp [isNameStart, quotes] at hc
  | operator =>
    have hs : isOperatorChar c := hp
    simp only [isOperatorChar, Bool.or_eq_true, beq_iff_eq] at hs
    rcases hs with ((rfl | rfl) | rfl) | rfl <;> exact absurd hc (by decide)
  | _ =>
    obtain rfl := eq_of_beq hp
    exact absurd hc (by decide)

/-- Only the patterns that can begin with the first character have to be compared. -/
theorem LongestMatch.of_opens {l : Lexeme} (spelled : l.spelling <+: c :: rest)
    (found : ∃ p : Pattern, l.spelling ∈ p.language ∧ p.kind = l.kind ∧ p.text l.spelling = l.text)
    (longest : ∀ p : Pattern, p.opens c → ∀ w ∈ p.language, w <+: c :: rest → w <+: l.spelling)
    (same_kind : ∀ p : Pattern, p.opens c → l.spelling ∈ p.language → p.kind = l.kind) :
    LongestMatch (c :: rest) l := by
  have opens {p : Pattern} {w : List Char} (hw : w ∈ p.language) (hp : w <+: c :: rest) :
      p.opens c := by
    obtain ⟨d, v, rfl, hd⟩ := p.exists_head hw
    obtain ⟨rfl, -⟩ := List.cons_prefix_cons.1 hp
    exact hd
  exact ⟨spelled, found, fun p w hw hp => longest p (opens hw hp) w hw hp,
    fun p hp => same_kind p (opens hp spelled) hp⟩

end Heads

section Cases

theorem longestMatch_symbol (hlang : p.language = word [c]) (htext : p.text [c] = [c])
    (only : ∀ q : Pattern, q.opens c → q = p) : LongestMatch (c :: rest) (verbatim p.kind [c]) := by
  refine .of_opens (by simp [verbatim]) ⟨p, by rw [hlang]; rfl, rfl, htext⟩ ?_ ?_
  · rintro q hq w hw -
    obtain rfl := only q hq
    rw [hlang, mem_word] at hw
    exact hw ▸ List.prefix_refl _
  · intro q hq _
    rw [only q hq]
    rfl

theorem longestMatch_pair {d : Char} {kind : Kind} (kinds : ∀ q : Pattern, q.opens c → q.kind = kind)
    (shapes : ∀ q : Pattern, q.opens c → ∀ w ∈ q.language, w <+: c :: rest → w = [c] ∨ w = [c, d])
    (single : ∃ q : Pattern, [c] ∈ q.language ∧ q.kind = kind ∧ q.text [c] = [c])
    (double : ∃ q : Pattern, [c, d] ∈ q.language ∧ q.kind = kind ∧ q.text [c, d] = [c, d]) :
    LongestMatch (c :: rest) (verbatim kind (if rest.head? = some d then [c, d] else [c])) := by
  split_ifs with next
  · obtain ⟨rest, rfl⟩ := List.head?_eq_some_iff.1 next
    refine .of_opens (by simp [verbatim]) double ?_ fun q hq _ => kinds q hq
    intro q hq w hw hp
    rcases shapes q hq w hw hp with rfl | rfl <;> simp [verbatim]
  · refine .of_opens (by simp [verbatim]) single ?_ fun q hq _ => kinds q hq
    intro q hq w hw hp
    rcases shapes q hq w hw hp with rfl | rfl
    · exact List.prefix_refl _
    · obtain ⟨r, rfl⟩ := (List.cons_prefix_cons.1 hp).2
      exact absurd rfl next

theorem longestMatch_slash : LongestMatch ('/' :: rest)
    (verbatim .slash (if rest.head? = some '/' then ['/', '/'] else ['/'])) := by
  refine longestMatch_pair ?_ ?_ ⟨.slash, rfl, rfl, rfl⟩ ⟨.doubleSlash, rfl, rfl, rfl⟩
  · intro q hq
    rcases opens_slash hq with rfl | rfl <;> rfl
  · intro q hq w hw _
    rcases opens_slash hq with rfl | rfl
    · exact .inr (mem_word.1 hw)
    · exact .inl (mem_word.1 hw)

theorem longestMatch_operator (hc : isOperatorChar c) : LongestMatch (c :: rest)
    (verbatim .operator (if rest.head? = some '=' then [c, '='] else [c])) := by
  refine longestMatch_pair ?_ ?_ ⟨.operator, mem_operator.2 ⟨c, hc, .inl rfl⟩, rfl, rfl⟩
    ⟨.operator, mem_operator.2 ⟨c, hc, .inr rfl⟩, rfl, rfl⟩
  · intro q hq
    rw [opens_operator hc hq]
    rfl
  · intro q hq w hw hp
    obtain rfl := opens_operator hc hq
    obtain ⟨d, -, rfl | rfl⟩ := mem_operator.1 hw
    · obtain ⟨rfl, -⟩ := List.cons_prefix_cons.1 hp
      exact .inl rfl
    · obtain ⟨rfl, -⟩ := List.cons_prefix_cons.1 hp
      exact .inr rfl

theorem longestMatch_literal (hc : isQuote c) {body : List Char}
    (h : literalBody? c rest = some body) :
    LongestMatch (c :: rest) ⟨.literal, body, c :: body ++ [c]⟩ := by
  obtain ⟨hbody, hp⟩ := (literalBody?_eq_some_iff hc).1 h
  refine .of_opens (by simpa using hp)
    ⟨.literal c hc, mem_literal.2 ⟨body, hbody, rfl⟩, rfl, Pattern.text_literal hc body⟩ ?_ ?_
  · intro p hp w hw hw'
    obtain rfl := opens_quote hc hp
    obtain ⟨v, hv, rfl⟩ := mem_literal.1 hw
    have found := (literalBody?_eq_some_iff hc).2 ⟨hv, (List.cons_prefix_cons.1 hw').2⟩
    obtain rfl := Option.some.inj (h.symm.trans found)
    exact List.prefix_refl _
  · intro p hp _
    rw [opens_quote hc hp]
    rfl

theorem prefix_takeWhile {q : Char → Bool} {cs : List Char} (h : ∀ c ∈ w, q c) (hp : w <+: cs) :
    w <+: cs.takeWhile q := by
  obtain ⟨r, rfl⟩ := hp
  rw [List.takeWhile_append_of_pos h]
  exact List.prefix_append _ _

/-- A name that begins with a colon; the run of colons alone ends before the name character. -/
theorem longestMatch_colonName {d : Char} (hd : isNameChar d) :
    LongestMatch (':' :: d :: rest) (verbatim .tag (nameTail (':' :: d :: rest))) := by
  have scan : nameTail (':' :: d :: rest) = ':' :: d :: nameTail rest := by simp [nameTail, hd]
  refine .of_opens (nameTail_prefix_self _)
    ⟨.name, mem_name.2 (.inr ⟨d, _, scan, hd, nameTail_mem rest⟩), rfl, rfl⟩ ?_ ?_
  · intro p hp w hw hw'
    rcases opens_colon hp with rfl | rfl
    · exact prefix_nameTail (mem_nameRest_of_name hw) hw'
    · obtain ⟨hne, hall⟩ := mem_colons.1 hw
      rcases w with _ | ⟨e, _ | ⟨f, v⟩⟩
      · exact absurd rfl hne
      · obtain ⟨rfl, -⟩ := List.cons_prefix_cons.1 hw'
        simp [verbatim, scan]
      · obtain ⟨rfl, hv⟩ := List.cons_prefix_cons.1 hw'
        obtain ⟨rfl, -⟩ := List.cons_prefix_cons.1 hv
        exact absurd (hall f (by simp)) (ne_colon_of_isNameChar hd)
  · intro p hp _
    rcases opens_colon hp with rfl | rfl <;> rfl

theorem any_head_of_name {v : List Char} (hv : ':' :: v ∈ Pattern.name.language) :
    v.head?.any isNameChar := by
  rcases mem_name.1 hv with ⟨c, v', h, hc, -⟩ | ⟨c, v', h, hc, -⟩
  · obtain ⟨rfl, -⟩ := List.cons.inj h
    exact absurd hc (by decide)
  · obtain ⟨-, rfl⟩ := List.cons.inj h
    exact hc

theorem longestMatch_colons (next : ¬ rest.head?.any isNameChar) :
    LongestMatch (':' :: rest) (verbatim .tag ((':' :: rest).takeWhile (· == ':'))) := by
  have hrun : ∀ c ∈ (':' :: rest).takeWhile (· == ':'), c = ':' := by
    intro c hc
    simpa using List.all_eq_true.1 List.all_takeWhile c hc
  have hmem : (':' :: rest).takeWhile (· == ':') ∈ Pattern.colons.language :=
    mem_colons.2 ⟨by simp, hrun⟩
  refine .of_opens ( List.takeWhile_prefix _) ⟨.colons, hmem, rfl, rfl⟩ ?_ ?_
  · intro p hp w hw hw'
    rcases opens_colon hp with rfl | rfl
    · obtain ⟨c, v, rfl, -⟩ := Pattern.name.exists_head hw
      obtain ⟨rfl, hv⟩ := List.cons_prefix_cons.1 hw'
      have hany := any_head_of_name hw
      cases v with
      | nil => simp at hany
      | cons d v =>
        obtain ⟨r, rfl⟩ := hv
        exact absurd hany next
    · exact prefix_takeWhile (by simpa using (mem_colons.1 hw).2) hw'
  · intro p hp _
    rcases opens_colon hp with rfl | rfl <;> rfl

theorem longestMatch_ofColon : LongestMatch (':' :: rest) (ofColon (':' :: rest)) := by
  rw [ofColon, List.tail_cons]
  split_ifs with next
  · cases rest with
    | nil => simp at next
    | cons d rest => exact longestMatch_colonName (by simpa using next)
  · exact longestMatch_colons next

/-- The scan of a name that comes to two colons takes the first of them. -/
theorem nameTail_run {run : List Char} (h : ∀ c ∈ run, isNameChar c) :
    nameTail (run ++ ':' :: ':' :: rest) = run ++ [':'] := by
  induction run with
  | nil => simp [nameTail, isNameChar]
  | cons c run ih =>
    obtain ⟨hc, hrun⟩ := List.forall_mem_cons.1 h
    simp [nameTail, hc, ih hrun]

/-- An axis is the first run of name characters with two colons after it. -/
theorem eq_run_of_axis {cs : List Char} (hw : w ∈ Pattern.axis.language) (hp : w <+: cs) :
    w = cs.takeWhile isNameChar ++ [':', ':'] := by
  obtain ⟨r, hr, rfl⟩ := mem_axis.1 hw
  obtain ⟨after, rfl⟩ := hp
  rw [List.append_assoc, List.takeWhile_append_of_pos (mem_axisRun.1 hr).2]
  simp [isNameChar]

theorem longestMatch_axis {run after : List Char} (hrun : run ∈ axisRun) :
    LongestMatch (run ++ ':' :: ':' :: after) ⟨.axis, run, run ++ [':', ':']⟩ := by
  obtain ⟨⟨c, hc, hstart⟩, hchars⟩ := mem_axisRun.1 hrun
  obtain ⟨v, rfl⟩ := List.head?_eq_some_iff.1 hc
  have spelled : c :: v ++ [':', ':'] <+: c :: v ++ ':' :: ':' :: after := by simp
  have hname {w : List Char} (hw : w ∈ Pattern.name.language)
      (hp : w <+: c :: v ++ ':' :: ':' :: after) : w <+: c :: v ++ [':'] := by
    rw [← nameTail_run hchars]
    exact prefix_nameTail (mem_nameRest_of_name hw) hp
  have hmem : c :: v ++ [':', ':'] ∈ Pattern.axis.language := mem_axis.2 ⟨_, hrun, rfl⟩
  refine .of_opens spelled ⟨.axis, hmem, rfl, Pattern.text_axis _⟩ ?_ ?_
  · intro p hp w hw hw'
    rcases opens_nameStart hstart hp with rfl | rfl
    · obtain rfl := (eq_run_of_axis hw hw').trans (eq_run_of_axis hmem spelled).symm
      exact List.prefix_refl _
    · exact (hname hw hw').trans (by simp)
  · intro p hp hw
    rcases opens_nameStart hstart hp with rfl | rfl
    · rfl
    · have tooLong := hname hw spelled
      simp at tooLong

theorem longestMatch_name (hc : isNameStart c)
    (noAxis : ∀ w ∈ Pattern.axis.language, ¬ w <+: c :: rest) :
    LongestMatch (c :: rest) (verbatim .tag (nameTail (c :: rest))) := by
  have scan : nameTail (c :: rest) = c :: nameTail rest := by
    simp [nameTail, isNameChar_of_isNameStart hc]
  refine .of_opens (nameTail_prefix_self _)
    ⟨.name, mem_name.2 (.inl ⟨c, nameTail rest, scan, hc, nameTail_mem rest⟩), rfl, rfl⟩ ?_ ?_
  · intro p hp w hw hw'
    rcases opens_nameStart hc hp with rfl | rfl
    · exact absurd hw' (noAxis w hw)
    · exact prefix_nameTail (mem_nameRest_of_name hw) hw'
  · intro p hp hw
    rcases opens_nameStart hc hp with rfl | rfl
    · exact absurd (nameTail_prefix_self _) (noAxis _ hw)
    · rfl

theorem longestMatch_ofName (hc : isNameStart c) : LongestMatch (c :: rest) (ofName (c :: rest)) := by
  have hrun : (c :: rest).takeWhile isNameChar ∈ axisRun :=
    mem_axisRun.2 ⟨⟨c, by simp [isNameChar_of_isNameStart hc], hc⟩,
      List.all_eq_true.1 List.all_takeWhile⟩
  have haxis {w : List Char} (hw : w ∈ Pattern.axis.language) (hp : w <+: c :: rest) :=
    eq_run_of_axis hw hp
  obtain ⟨after, hafter⟩ := List.takeWhile_prefix isNameChar (l := c :: rest)
  unfold ofName
  generalize (c :: rest).takeWhile isNameChar = run at *
  have hdrop : (c :: rest).drop run.length = after := by rw [← hafter, List.drop_left]
  simp only [hdrop, List.isPrefixOf_iff_prefix]
  split_ifs with next
  · obtain ⟨after, rfl⟩ := next
    rw [← hafter]
    exact longestMatch_axis hrun
  · refine longestMatch_name hc fun w hw hp => next ?_
    rwa [haxis hw hp, ← hafter, List.prefix_append_right_inj] at hp

theorem longestMatch_first? {l : Lexeme} (hc : isBlank c = false) (h : first? c rest = some l) :
    LongestMatch (c :: rest) l := by
  have symbol {d : Char} {p : Pattern} (hlang : p.language = word [d]) (htext : p.text [d] = [d])
      (only : ∀ q : Pattern, q.opens d → q = p) (h : some (verbatim p.kind [d]) = some l) :
      LongestMatch (d :: rest) l := by
    cases h
    exact longestMatch_symbol hlang htext only
  unfold first? at h
  by_cases slash : c = '/'
  · subst slash
    cases h
    exact longestMatch_slash
  rw [if_neg slash] at h
  by_cases sign : c = '@'
  · subst sign
    exact symbol (p := .atSign) rfl rfl (fun q hq => by simpa using opens_symbol (by decide) hq) h
  rw [if_neg sign] at h
  by_cases opening : c = '['
  · subst opening
    exact symbol (p := .openBracket) rfl rfl (fun q hq => by simpa using opens_symbol (by decide) hq) h
  rw [if_neg opening] at h
  by_cases closing : c = ']'
  · subst closing
    exact symbol (p := .closeBracket) rfl rfl (fun q hq => by simpa using opens_symbol (by decide) hq) h
  rw [if_neg closing] at h
  by_cases star : c = '*'
  · subst star
    exact symbol (p := .wildcard) rfl rfl (fun q hq => by simpa using opens_symbol (by decide) hq) h
  rw [if_neg star] at h
  by_cases operator : isOperatorChar c
  · rw [if_pos operator] at h
    cases h
    exact longestMatch_operator operator
  rw [if_neg operator] at h
  by_cases quote : isQuote c
  · rw [if_pos quote] at h
    obtain ⟨body, hbody, rfl⟩ := Option.map_eq_some_iff.1 h
    exact longestMatch_literal quote hbody
  rw [if_neg quote] at h
  by_cases colon : c = ':'
  · subst colon
    cases h
    exact longestMatch_ofColon
  rw [if_neg colon] at h
  by_cases start : isNameStart c
  · rw [if_pos start] at h
    cases h
    exact longestMatch_ofName start
  rw [if_neg start] at h
  cases h

end Cases

end WidgetLocator.Token
