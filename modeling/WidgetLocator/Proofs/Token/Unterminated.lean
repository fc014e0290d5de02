import WidgetLocator.Proofs.Token.Lossless
import WidgetLocator.Proofs.Token.Respacing

/-! When a text cannot be read. There is one cause, a literal that is left open: the text up to its
quote can be read, and every later quote of its kind is escaped. What is missing is the closing quote,
and with it the text can be read. A text that can be read can be cut off wherever no token stands,
and is still read as the tokens before the cut. -/

namespace WidgetLocator.Token

open Text Lexeme

/-- What has to come before the closing quote, so that it closes: a quote that takes the escape at
the end of the text. -/
def completion (quote : Char) (rest : String) : String :=
  if escapes rest.toList then String.singleton quote else ""

/-- The source is rejected at a quote. What stands before the quote is read as the tokens, the rest
holds the quote only escaped, and a closing quote makes all of it a literal. -/
structure LeftOpen (source before : String) (quote : Char) (rest : String) (ts : List Token) : Prop where
  split : source = before ++ String.singleton quote ++ rest
  quotes : isQuote quote
  rejected : tokenize source = .error (.unterminatedLiteral before.utf8ByteSize)
  accepted : tokenize before = .ok (ts ++ [endAt before.utf8ByteSize])
  escaped : ∀ b, b ++ [quote] <+: rest.toList → escapes b
  closed : tokenize (source ++ completion quote rest ++ String.singleton quote) = .ok (ts ++
    [⟨.literal, rest ++ completion quote rest, before.utf8ByteSize⟩,
      endAt (source ++ completion quote rest ++ String.singleton quote).utf8ByteSize])

/-- The source is read as these tokens at these places. A beginning of it that ends outside of the
tokens is read as those that stand in it. -/
structure Accepted (source : String) (ts : List Token) (ps : List Placed) (last : List Char) : Prop where
  accepted : tokenize source = .ok ts
  tokens_eq : ts = ps.map (·.token) ++ [endAt source.utf8ByteSize]
  layout : Layout 0 ps last
  text_eq : layoutText ps last = source.toList
  beginnings : ∀ x y, source = x ++ y →
    (∀ p ∈ ps, x.utf8ByteSize ≤ p.start ∨ p.stop ≤ x.utf8ByteSize) →
    ∃ xs ys, ps = xs ++ ys ∧ (∀ p ∈ xs, p.stop ≤ x.utf8ByteSize) ∧ (∀ p ∈ ys, x.utf8ByteSize ≤ p.start) ∧
      tokenize x = .ok (xs.map (·.token) ++ [endAt x.utf8ByteSize])

section Cuts

variable {o : Nat} {cs after x y : List Char} {l : Lexeme} {ps : List Placed} {last : List Char}

theorem LongestMatch.readsAs (h : LongestMatch (l.spelling ++ after) l) :
    ReadsAs o l.spelling after [⟨l.kind, String.ofList l.text, o⟩] := by
  obtain ⟨p, hp, -⟩ := h.found
  obtain ⟨c, v, hs, hopens⟩ := p.exists_head hp
  have hc := isBlank_of_opens hopens
  have hcs : l.spelling ++ after = c :: (v ++ after) := by rw [hs, List.cons_append]
  refine .lexeme hcs hc ((first?_eq_some_iff hc).2 ?_)
  rw [← hcs, String.toList_ofList]
  exact h

theorem reads_blanks (h : ∀ c ∈ x, isBlank c) : Reads o x [endAt (o + String.utf8Len x)] := by
  have hblanks := ReadsAs.blanks h o [] _ .finish
  rwa [List.append_nil] at hblanks

theorem Layout.cut (h : Layout o ps last) (htext : layoutText ps last = x ++ y)
    (outside : ∀ p ∈ ps, o + String.utf8Len x ≤ p.start ∨ p.stop ≤ o + String.utf8Len x) :
    ∃ xs ys, ps = xs ++ ys ∧ (∀ p ∈ xs, p.stop ≤ o + String.utf8Len x) ∧
      (∀ p ∈ ys, o + String.utf8Len x ≤ p.start) ∧
      Reads o x (xs.map (·.token) ++ [endAt (o + String.utf8Len x)]) := by
  induction h generalizing x with
  | done hlast =>
    refine ⟨[], [], rfl, by simp, by simp, reads_blanks fun c hc => hlast c ?_⟩
    rw [layoutText_nil] at htext
    exact htext ▸ List.mem_append_left y hc
  | @next o p ps last hgap hstart hlongest hps ih =>
    obtain ⟨hp, hrest⟩ := List.forall_mem_cons.1 outside
    have hstop : p.stop = p.start + String.utf8Len p.spelling := rfl
    rw [layoutText_cons] at htext
    rcases hp with hp | hp
    · have hx : x <+: p.gap :=
        prefix_of_utf8Len_le ⟨y, htext.symm⟩ (List.prefix_append _ _) (by omega)
      refine ⟨[], p :: ps, rfl, by simp, List.forall_mem_cons.2 ⟨hp, fun q hq => ?_⟩,
        reads_blanks fun c hc => hgap c (hx.subset hc)⟩
      have hle := hps.start_le q hq
      omega
    · have hx : p.gap ++ p.spelling <+: x :=
        prefix_of_utf8Len_le (z := x ++ y) ⟨layoutText ps last, by rw [← htext, List.append_assoc]⟩
          (List.prefix_append _ _) (by rw [String.utf8Len_append]; omega)
      obtain ⟨x, rfl⟩ := hx
      have htext' : layoutText ps last = x ++ y := by simpa using htext
      have hlength : o + String.utf8Len (p.gap ++ p.spelling ++ x) = p.stop + String.utf8Len x := by
        rw [String.utf8Len_append, String.utf8Len_append]
        omega
      rw [hlength] at hrest ⊢
      obtain ⟨xs, ys, rfl, hxs, hys, hreads⟩ := ih htext' hrest
      refine ⟨p :: xs, ys, rfl, List.forall_mem_cons.2 ⟨Nat.le_add_right _ _, hxs⟩, hys, ?_⟩
      rw [htext'] at hlongest
      have htoken : (⟨p.lexeme.kind, String.ofList p.lexeme.text, p.start⟩ : Token) = p.token := by
        rw [Placed.lexeme, String.ofList_toList]
        rfl
      have hspelling := LongestMatch.readsAs (o := p.start) (l := p.lexeme) hlongest.cut
      rw [htoken, hstart] at hspelling
      have hboth := (ReadsAs.blanks hgap o (p.spelling ++ x)).append hspelling
      exact hboth _ (by rwa [String.utf8Len_append, ← Nat.add_assoc, ← hstart])

end Cuts

section Openings

variable {o : Nat} {cs rest : List Char} {quote : Char} {e : LexError}

/-- Where a scan fails, and what it has read before. -/
theorem scan_eq_error (h : scan o cs = .error e) : ∃ before quote rest ts,
    cs = before ++ quote :: rest ∧ isQuote quote ∧ literalBody? quote rest = none ∧
      e = .unterminatedLiteral (o + String.utf8Len before) ∧ ReadsAs o before [] ts ∧
      ∀ more, ReadsAs o before (quote :: rest ++ more) ts := by
  fun_induction scan o cs with
  | case1 => cases h
  | case2 o c rest hc ih =>
    obtain ⟨before, quote, rest, ts, rfl, hquote, hopen, rfl, hbefore, hmore⟩ := ih h
    refine ⟨c :: before, quote, rest, ts, rfl, hquote, hopen, ?_, ?_, fun more => ?_⟩
    · rw [String.utf8Len_cons, Nat.add_comm (String.utf8Len before), Nat.add_assoc]
    · exact hbefore.cons_blank hc
    · exact (hmore more).cons_blank hc
  | case3 o c rest hc hnone =>
    cases h
    obtain ⟨hquote, hopen⟩ := (first?_eq_none_iff (by simpa using hc)).1 hnone
    exact ⟨[], c, rest, [], rfl, hquote, hopen, by simp [hquote], .nil, fun _ => .nil⟩
  | case4 o c rest hc l hl e' hfailed ih =>
    cases h
    have hlongest := longestMatch_first? (by simpa using hc) hl
    obtain ⟨before, quote, rest', ts, hdrop, hquote, hopen, rfl, hbefore, hmore⟩ := ih hfailed
    have hcs := hlongest.append_drop
    rw [String.utf8ByteSize_ofList] at hbefore hmore ⊢
    rw [hdrop] at hcs
    rw [hcs] at hlongest ⊢
    refine ⟨l.spelling ++ before, quote, rest', ⟨l.kind, String.ofList l.text, o⟩ :: ts, by simp,
      hquote, hopen, ?_, ?_, fun more => ?_⟩
    · rw [String.utf8Len_append, Nat.add_assoc]
    · have hl : LongestMatch (l.spelling ++ (before ++ [])) l := by
        rw [List.append_nil]
        exact hlongest.cut
      exact hl.readsAs.append hbefore
    · have hl : LongestMatch (l.spelling ++ (before ++ (quote :: rest' ++ more))) l := by
        have hextended := hlongest.extend (by simp) more
        simpa using hextended
      exact hl.readsAs.append (hmore more)
  | case5 => cases h

theorem encloses_completion {rest : String} (hq : isQuote quote)
    (hopen : ∀ b, b ++ [quote] <+: rest.toList → escapes b) :
    Encloses quote (rest ++ completion quote rest).toList := by
  have hne := ne_backslash_of_isQuote hq
  unfold completion
  split
  · next hescapes =>
    rw [String.toList_append, String.toList_singleton]
    refine ⟨hq, fun b hb => ?_, by simp [escapes, hne]⟩
    rcases List.prefix_concat_iff.1 hb with heq | hb
    · rwa [List.append_inj_left' heq rfl]
    · exact hopen b hb
  · next hescapes =>
    rw [String.append_empty]
    exact ⟨hq, hopen, by simpa using hescapes⟩

theorem Encloses.readsAs {text : String} (h : Encloses quote text.toList) :
    ReadsAs o (quote :: text.toList ++ [quote]) [] [⟨.literal, text, o⟩] := by
  have hvalid : (⟨[], .literal, text, quote⟩ : Word).Valid := h
  exact hvalid.readsAs (by simp [BlankNext])

end Openings

/-- Every source is read or left open at a quote. -/
theorem tokenize_or_leftOpen (source : String) :
    (∃ ts ps last, Accepted source ts ps last) ∨
      ∃ before quote rest ts, LeftOpen source before quote rest ts := by
  cases hread : tokenize source with
  | ok ts =>
    obtain ⟨ps, last, hps, htext, rfl⟩ := exists_layout_of_tokenize hread
    refine .inl ⟨_, ps, last, ⟨hread, rfl, hps, htext, ?_⟩⟩
    rintro x y rfl outside
    rw [String.toList_append] at htext
    have hx : x.utf8ByteSize = 0 + String.utf8Len x.toList := by rw [Nat.zero_add, String.utf8Len_toList]
    rw [hx] at outside ⊢
    obtain ⟨xs, ys, hsplit, hxs, hys, hreads⟩ := hps.cut htext outside
    exact ⟨xs, ys, hsplit, hxs, hys, scan_eq_ok_iff.2 hreads⟩
  | error e =>
    obtain ⟨before, quote, rest, ts, hsource, hquote, hopen, rfl, hbefore, hmore⟩ := scan_eq_error hread
    obtain ⟨before, rfl⟩ : ∃ s : String, before = s.toList := ⟨_, String.toList_ofList.symm⟩
    obtain ⟨rest, rfl⟩ : ∃ s : String, rest = s.toList := ⟨_, String.toList_ofList.symm⟩
    have hescaped := (literalBody?_eq_none_iff hquote).1 hopen
    rw [Nat.zero_add, String.utf8Len_toList] at hread
    refine .inr ⟨before, quote, rest, ts, ⟨?_, hquote, hread, ?_, hescaped, ?_⟩⟩
    · rw [← String.toList_inj, hsource]
      simp
    · have hfinish := hbefore _ .finish
      rw [List.append_nil, Nat.zero_add, String.utf8Len_toList] at hfinish
      exact scan_eq_ok_iff.2 hfinish
    · have hliteral := (encloses_completion hquote hescaped).readsAs (o := 0 + String.utf8Len before.toList)
      have hall := hmore ((completion quote rest).toList ++ [quote])
      rw [← List.append_assoc, List.cons_append, ← String.toList_append,
        ← List.append_nil (_ ++ [quote])] at hall
      have hfinish := hall.append hliteral _ .finish
      have htext : before.toList ++ (quote :: (rest ++ completion quote rest).toList ++ [quote]) =
          (source ++ completion quote rest ++ String.singleton quote).toList := by
        simp [hsource]
      rw [List.append_nil, htext, Nat.zero_add, Nat.zero_add, String.utf8Len_toList, String.utf8Len_toList,
        List.append_assoc] at hfinish
      exact scan_eq_ok_iff.2 hfinish

-- the backslash at the end takes the first of the two quotes with it
example : tokenize "a 'b\\" = .error (.unterminatedLiteral 2) ∧
    tokenize ("a 'b\\" ++ completion '\'' "b\\" ++ "'") =
      .ok [⟨.tag, "a", 0⟩, ⟨.literal, "b\\'", 2⟩, endAt 7] := by
  decide +kernel

end WidgetLocator.Token
