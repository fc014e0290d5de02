import WidgetLocator.Proofs.Token.Spelling

/-! Texts one after the other. No token goes on over a blank, so a text that can be read is read in
the same way in front of one, and then the reading goes on there. The tokens of a text do not depend
on where the text stands, apart from their offsets. -/

namespace WidgetLocator

def Token.move (f : Nat → Nat) (t : Token) : Token := { t with offset := f t.offset }

@[simp] theorem Token.kind_move (f : Nat → Nat) (t : Token) : (t.move f).kind = t.kind := rfl

@[simp] theorem Token.text_move (f : Nat → Nat) (t : Token) : (t.move f).text = t.text := rfl

namespace Token

open Text Lexeme

/-- A blank or nothing at all comes next. -/
def BlankNext (after : List Char) : Prop := ∀ c ∈ after.head?, isBlank c

section Scanners

variable {after : List Char}

theorem ne_of_isBlank {c d : Char} (hc : isBlank c) (hd : isBlank d = false) : c ≠ d := by
  rintro rfl
  simp [hc] at hd

theorem blankNext_append {w : List Char} (hne : w ≠ []) (hw : ∀ c ∈ w, isBlank c) (after : List Char) :
    BlankNext (w ++ after) := by
  obtain ⟨d, v, rfl⟩ := List.exists_cons_of_ne_nil hne
  intro c hc
  obtain rfl := Option.some.inj hc
  exact hw _ List.mem_cons_self

theorem BlankNext.endsName (h : BlankNext after) : EndsName after := by
  intro c hc
  have hblank := h c hc
  exact ⟨by simp [isNameChar, hblank], ne_of_isBlank hblank (by decide)⟩

theorem BlankNext.head?_append (h : BlankNext after) {d : Char} (hd : isBlank d = false)
    (cs : List Char) : (cs ++ after).head? = some d ↔ cs.head? = some d := by
  cases cs with
  | cons c cs => rfl
  | nil =>
    simp only [List.nil_append, List.head?_nil, reduceCtorEq, iff_false]
    intro hafter
    exact ne_of_isBlank (h d hafter) hd rfl

theorem literalBody?_append {quote : Char} (hq : isQuote quote) {cs body : List Char}
    (h : literalBody? quote cs = some body) (after : List Char) :
    literalBody? quote (cs ++ after) = some body := by
  obtain ⟨hbody, hp⟩ := (literalBody?_eq_some_iff hq).1 h
  exact (literalBody?_eq_some_iff hq).2 ⟨hbody, hp.trans (List.prefix_append _ _)⟩

/-- The lexeme at the head of a text is the same when blanks follow the text. -/
theorem BlankNext.first?_append (h : BlankNext after) {c : Char} {rest : List Char} {l : Lexeme}
    (hl : first? c rest = some l) : first? c (rest ++ after) = some l := by
  by_cases quote : isQuote c
  · rw [first?_of_isQuote quote, Option.map_eq_some_iff] at hl
    obtain ⟨body, hbody, rfl⟩ := hl
    rw [first?_of_isQuote quote, literalBody?_append quote hbody, Option.map_some]
  rw [← hl]
  by_cases colon : c = ':'
  · subst colon
    exact congrArg some (h.endsName.ofColon_append rest)
  · have hname := h.endsName.ofName_append (c :: rest)
    rw [List.cons_append] at hname
    simp only [first?, quote, colon, hname, h.head?_append (d := '/') (by decide),
      h.head?_append (d := '=') (by decide), Bool.false_eq_true, if_false]

end Scanners

section Texts

/-- A text is read in the same way in front of a blank, and at the end the reading goes on. -/
theorem Reads.readsAs {o : Nat} {cs after : List Char} {us : List Token} (h : Reads o cs us)
    (hafter : BlankNext after) :
    ∃ ts, us = ts ++ [endAt (o + String.utf8Len cs)] ∧ ReadsAs o cs after ts := by
  induction h with
  | finish => exact ⟨[], rfl, .nil⟩
  | @blank o c rest us hc _ ih =>
    obtain ⟨ts, rfl, hts⟩ := ih
    refine ⟨ts, by rw [String.utf8Len_cons, Nat.add_comm (String.utf8Len _), Nat.add_assoc], ?_⟩
    exact hts.cons_blank hc
  | @token o c rest rest' l us hc hl hcs _ ih =>
    obtain ⟨ts, rfl, hts⟩ := ih
    refine ⟨⟨l.kind, String.ofList l.text, o⟩ :: ts, ?_, ?_⟩
    · rw [hcs, String.utf8Len_append, Nat.add_assoc]
      rfl
    · have hcs' : l.spelling ++ (rest' ++ after) = c :: (rest ++ after) := by
        rw [← List.append_assoc, ← hcs, List.cons_append]
      have hlexeme : ReadsAs o l.spelling (rest' ++ after) [⟨l.kind, String.ofList l.text, o⟩] := by
        refine .lexeme hcs' hc ?_
        rw [String.toList_ofList]
        exact hafter.first?_append hl
      rw [hcs]
      exact hlexeme.append hts

theorem ReadsAs.blanks {cs : List Char} (h : ∀ c ∈ cs, isBlank c) (o : Nat) (after : List Char) :
    ReadsAs o cs after [] := by
  induction cs generalizing o with
  | nil => exact .nil
  | cons c cs ih =>
    obtain ⟨hc, hcs⟩ := List.forall_mem_cons.1 h
    exact (ih hcs _).cons_blank hc

theorem Reads.move {o : Nat} {cs : List Char} {ts : List Token} (h : Reads o cs ts) (n : Nat) :
    Reads (n + o) cs (ts.map (Token.move (n + ·))) := by
  induction h with
  | finish => exact .finish
  | blank hc _ ih =>
    rw [← Nat.add_assoc] at ih
    exact .blank hc ih
  | token hc hl hcs _ ih =>
    rw [← Nat.add_assoc] at ih
    exact .token hc hl hcs ih

/-- Blanks between two texts keep their tokens apart. -/
theorem tokenize_append {x w y : String} {ts us : List Token} (hx : tokenize x = .ok ts)
    (hy : tokenize y = .ok us) (hne : w ≠ "") (hw : ∀ c ∈ w.toList, isBlank c) :
    ∃ ts', ts = ts' ++ [endAt x.utf8ByteSize] ∧
      tokenize (x ++ w ++ y) = .ok (ts' ++ us.map (Token.move (x.utf8ByteSize + w.utf8ByteSize + ·))) := by
  have hblank : BlankNext (w.toList ++ y.toList) :=
    blankNext_append (mt String.toList_eq_nil_iff.1 hne) hw y.toList
  obtain ⟨ts', rfl, hreads⟩ := (scan_eq_ok_iff.1 hx).readsAs hblank
  rw [String.utf8Len_toList, Nat.zero_add]
  refine ⟨ts', rfl, scan_eq_ok_iff.2 ?_⟩
  have hrest := hreads.append (ReadsAs.blanks hw _ y.toList)
  rw [List.append_nil] at hrest
  rw [String.toList_append, String.toList_append]
  refine hrest _ ?_
  rw [String.utf8Len_append, String.utf8Len_toList, String.utf8Len_toList, Nat.zero_add]
  exact (scan_eq_ok_iff.1 hy).move _

end Texts

end Token
end WidgetLocator
