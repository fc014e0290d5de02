import WidgetLocator.Proofs.Text.Utf8
import WidgetLocator.Proofs.Token.LongestMatch

/-! How the tokens of a text lie in it. A successful scan is a row of steps, each of which skips a
blank or reads one token, and the text is cut up accordingly: blanks, the spelling of a token, and so
on, with blanks at the end. -/

namespace WidgetLocator.Token

open Text Lexeme

/-- The scan of the text at the byte offset, step by step. -/
inductive Reads : Nat → List Char → List Token → Prop
  | finish {o : Nat} : Reads o [] [endAt o]
  | blank {o : Nat} {c : Char} {rest : List Char} {ts : List Token} :
      isBlank c → Reads (o + c.utf8Size) rest ts → Reads o (c :: rest) ts
  | token {o : Nat} {c : Char} {rest after : List Char} {l : Lexeme} {ts : List Token} :
      isBlank c = false → first? c rest = some l → c :: rest = l.spelling ++ after →
      Reads (o + String.utf8Len l.spelling) after ts →
      Reads o (c :: rest) (⟨l.kind, String.ofList l.text, o⟩ :: ts)

theorem LongestMatch.spelling_ne_nil {cs : List Char} {l : Lexeme} (h : LongestMatch cs l) :
    l.spelling ≠ [] := by
  obtain ⟨p, hp, -⟩ := h.found
  obtain ⟨c, v, hs, -⟩ := p.exists_head hp
  simp [hs]

theorem LongestMatch.append_drop {c : Char} {rest : List Char} {l : Lexeme}
    (h : LongestMatch (c :: rest) l) : c :: rest = l.spelling ++ rest.drop (l.spelling.length - 1) := by
  obtain ⟨after, hafter⟩ := h.spelled
  cases hs : l.spelling with
  | nil => exact absurd hs h.spelling_ne_nil
  | cons d v =>
    rw [hs, List.cons_append] at hafter
    obtain ⟨rfl, rfl⟩ := List.cons.inj hafter
    simp

theorem scan_eq_ok_iff {o : Nat} {cs : List Char} {ts : List Token} :
    scan o cs = .ok ts ↔ Reads o cs ts := by
  constructor
  · intro h
    fun_induction scan o cs generalizing ts with
    | case1 => cases h; exact .finish
    | case2 o c rest hc ih => exact .blank hc (ih h)
    | case3 => cases h
    | case4 => cases h
    | case5 o c rest hc l hl us heard ih =>
      cases h
      rw [String.utf8ByteSize_ofList] at ih heard
      have hc' : isBlank c = false := by simpa using hc
      exact .token hc' hl (longestMatch_first? hc' hl).append_drop (ih heard)
  · intro h
    induction h with
    | finish => rw [scan]
    | blank hc _ ih => rw [scan, if_pos hc, ih]
    | @token o c rest after l ts hc hl hcs _ ih =>
      have hafter : after = rest.drop (l.spelling.length - 1) :=
        List.append_cancel_left (hcs.symm.trans (longestMatch_first? hc hl).append_drop)
      rw [scan, if_neg (by simp [hc]), hl]
      simp only [← hafter, String.utf8ByteSize_ofList, ih]

structure Placed where
  gap : List Char
  token : Token
  spelling : List Char

namespace Placed

def start (p : Placed) : Nat := p.token.offset

def stop (p : Placed) : Nat := p.token.offset + String.utf8Len p.spelling

def lexeme (p : Placed) : Lexeme := ⟨p.token.kind, p.token.text.toList, p.spelling⟩

end Placed

def layoutText (ps : List Placed) (last : List Char) : List Char :=
  ps.flatMap (fun p => p.gap ++ p.spelling) ++ last

@[simp] theorem layoutText_nil (last : List Char) : layoutText [] last = last := rfl

@[simp] theorem layoutText_cons (p : Placed) (ps : List Placed) (last : List Char) :
    layoutText (p :: ps) last = p.gap ++ (p.spelling ++ layoutText ps last) := by
  simp [layoutText]

@[simp] theorem layoutText_append (ps qs : List Placed) (last : List Char) :
    layoutText (ps ++ qs) last = layoutText ps (layoutText qs last) := by
  simp [layoutText]

theorem layoutText_gap (ps : List Placed) (gap last : List Char) :
    layoutText ps (gap ++ last) = layoutText ps gap ++ last := by
  simp [layoutText]

/-- Placed tokens one after the other, from the byte offset on, each of them the longest that its
place allows. -/
inductive Layout : Nat → List Placed → List Char → Prop
  | done {o : Nat} {last : List Char} : (∀ c ∈ last, isBlank c) → Layout o [] last
  | next {o : Nat} {p : Placed} {ps : List Placed} {last : List Char} :
      (∀ c ∈ p.gap, isBlank c) → p.start = o + String.utf8Len p.gap →
      LongestMatch (p.spelling ++ layoutText ps last) p.lexeme →
      Layout p.stop ps last → Layout o (p :: ps) last

theorem Layout.blank {o : Nat} {c : Char} {ps : List Placed} {last : List Char} (hc : isBlank c)
    (h : Layout (o + c.utf8Size) ps last) : ∃ ps' last', Layout o ps' last' ∧
      layoutText ps' last' = c :: layoutText ps last ∧ ps'.map (·.token) = ps.map (·.token) := by
  cases h with
  | done hlast => exact ⟨[], c :: last, .done (List.forall_mem_cons.2 ⟨hc, hlast⟩), rfl, rfl⟩
  | @next _ p ps _ hgap hstart hlongest hps =>
    refine ⟨{ p with gap := c :: p.gap } :: ps, last,
      .next (List.forall_mem_cons.2 ⟨hc, hgap⟩) ?_ hlongest hps, by simp, rfl⟩
    rw [String.utf8Len_cons, Nat.add_comm (String.utf8Len _), ← Nat.add_assoc]
    exact hstart

theorem Reads.exists_layout {o : Nat} {cs : List Char} {ts : List Token} (h : Reads o cs ts) :
    ∃ ps last, Layout o ps last ∧ layoutText ps last = cs ∧
      ts = ps.map (·.token) ++ [endAt (o + String.utf8Len cs)] := by
  induction h with
  | finish => exact ⟨[], [], .done (by simp), rfl, rfl⟩
  | @blank o c rest ts hc _ ih =>
    obtain ⟨ps, last, hps, rfl, rfl⟩ := ih
    obtain ⟨ps', last', hps', htext, htokens⟩ := hps.blank hc
    refine ⟨ps', last', hps', htext, ?_⟩
    rw [htokens, String.utf8Len_cons, Nat.add_comm (String.utf8Len _), Nat.add_assoc]
  | @token o c rest after l ts hc hl hcs _ ih =>
    obtain ⟨ps, last, hps, rfl, rfl⟩ := ih
    have hlongest := longestMatch_first? hc hl
    rw [hcs] at hlongest
    let p : Placed := ⟨[], ⟨l.kind, String.ofList l.text, o⟩, l.spelling⟩
    have hlexeme : p.lexeme = l := by simp [p, Placed.lexeme]
    refine ⟨p :: ps, last, .next (by simp [p]) rfl (hlexeme ▸ hlongest) hps, by simp [p, hcs], ?_⟩
    rw [hcs, String.utf8Len_append, ← Nat.add_assoc]
    rfl

/-- What the layout says of one token: the text before it and after it. -/
theorem Layout.split {o : Nat} {xs ys : List Placed} {p : Placed} {last : List Char}
    (h : Layout o (xs ++ p :: ys) last) :
    (∀ c ∈ p.gap, isBlank c) ∧ p.start = o + String.utf8Len (layoutText xs p.gap) ∧
      LongestMatch (p.spelling ++ layoutText ys last) p.lexeme ∧ Layout p.stop ys last := by
  induction xs generalizing o with
  | nil =>
    cases h with
    | next hgap hstart hlongest hys => exact ⟨hgap, hstart, hlongest, hys⟩
  | cons x xs ih =>
    cases h with
    | next _ hx _ hxs =>
      obtain ⟨hgap, hstart, hlongest, hys⟩ := ih hxs
      refine ⟨hgap, ?_, hlongest, hys⟩
      simp only [Placed.start, Placed.stop, layoutText_cons, String.utf8Len_append] at *
      omega

theorem Layout.stop_add {o : Nat} {xs ys : List Placed} {p : Placed} {last : List Char}
    (h : Layout o (xs ++ p :: ys) last) :
    p.stop + String.utf8Len (layoutText ys last) = o + String.utf8Len (layoutText (xs ++ p :: ys) last) := by
  have hstart : p.start = o + String.utf8Len (layoutText xs p.gap) := h.split.2.1
  have hstop : p.stop = p.start + String.utf8Len p.spelling := rfl
  rw [layoutText_append, layoutText_cons, layoutText_gap, String.utf8Len_append, String.utf8Len_append]
  omega

theorem Layout.longest {o : Nat} {ps : List Placed} {last : List Char} (h : Layout o ps last)
    {p : Placed} (hp : p ∈ ps) : ∃ after, LongestMatch (p.spelling ++ after) p.lexeme := by
  obtain ⟨xs, ys, rfl⟩ := List.append_of_mem hp
  obtain ⟨-, -, hlongest, -⟩ := h.split
  exact ⟨_, hlongest⟩

theorem Layout.blank_last {o : Nat} {ps : List Placed} {last : List Char} (h : Layout o ps last) :
    ∀ c ∈ last, isBlank c := by
  induction h with
  | done hlast => exact hlast
  | next _ _ _ _ ih => exact ih

/-- A text that does not end in a blank ends with its last token. -/
theorem Layout.last_eq_nil {o : Nat} {ps : List Placed} {last : List Char} (h : Layout o ps last)
    (hend : ∀ c ∈ (layoutText ps last).getLast?, isBlank c = false) : last = [] := by
  rcases List.eq_nil_or_concat last with rfl | ⟨w, c, rfl⟩
  · rfl
  · have hc : isBlank c := h.blank_last c (by simp)
    rw [List.concat_eq_append, layoutText_gap] at hend
    simp [hend c (by simp)] at hc

theorem exists_layout_of_tokenize {source : String} {tokens : List Token}
    (h : tokenize source = .ok tokens) :
    ∃ ps last, Layout 0 ps last ∧ layoutText ps last = source.toList ∧
      tokens = ps.map (·.token) ++ [endAt source.utf8ByteSize] := by
  obtain ⟨ps, last, hps, htext, htokens⟩ := (scan_eq_ok_iff.1 h).exists_layout
  refine ⟨ps, last, hps, htext, ?_⟩
  rw [htokens, String.utf8Len_toList, Nat.zero_add]

end WidgetLocator.Token
