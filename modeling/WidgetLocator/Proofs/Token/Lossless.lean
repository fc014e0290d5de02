import WidgetLocator.Proofs.Token.Layout

/-! A text that can be read is its tokens and the blanks between them. Each token has a span of the
bytes of the text, which begins at its offset and holds its spelling, the spans follow one another,
and every byte outside them is that of a blank. -/

namespace WidgetLocator.Token

open Text

def Spells (t : Token) (w : List Char) : Prop :=
  match t.kind with
  | .literal => ∃ quote, isQuote quote ∧ w = quote :: t.text.toList ++ [quote]
  | .axis => w = t.text.toList ++ [':', ':']
  | _ => w = t.text.toList

/-- How many bytes of its spelling a token of the kind leaves out of its text: those of the quotes of a
literal, and those of the colons of an axis. -/
def Kind.hidden : Kind → Nat
  | .literal | .axis => 2
  | _ => 0

def blanks : List Char := [' ', '\t', '\n', '\r', '\x0c', '\x0b']

/-- The span of the token lies between characters of the source, and its spelling stands there. -/
structure Placed.StandsIn (p : Placed) (source : String) : Prop where
  start_valid : (⟨p.start⟩ : String.Pos.Raw).IsValid source
  stop_valid : (⟨p.stop⟩ : String.Pos.Raw).IsValid source
  bytes : source.toByteArray.extract p.start p.stop = (String.ofList p.spelling).toByteArray

section Spellings

variable {p : Pattern} {t : Token} {w : List Char}

theorem Pattern.spells (h : w ∈ p.language) (hkind : p.kind = t.kind)
    (htext : p.text w = t.text.toList) : t.Spells w := by
  unfold Spells
  rw [← hkind, ← htext]
  cases p with
  | axis =>
    obtain ⟨r, -, rfl⟩ := mem_axis.1 h
    rw [Pattern.text_axis]
    rfl
  | literal quote quotes =>
    obtain ⟨v, -, rfl⟩ := mem_literal.1 h
    exact ⟨quote, quotes, by rw [Pattern.text_literal]⟩
  | _ => rfl

theorem Spells.utf8Len (h : t.Spells w) :
    String.utf8Len w = t.text.utf8ByteSize + t.kind.hidden := by
  obtain ⟨kind, text, offset⟩ := t
  cases kind with
  | literal =>
    obtain ⟨quote, hquote, rfl⟩ := h
    have hsize : quote.utf8Size = 1 := by
      simp only [isQuote, Bool.or_eq_true, beq_iff_eq] at hquote
      rcases hquote with rfl | rfl <;> rfl
    simp only [List.cons_append, String.utf8Len_cons, String.utf8Len_append, String.utf8Len_toList, hsize,
      String.utf8Len_nil, Kind.hidden]
  | axis =>
    obtain rfl := h
    rw [String.utf8Len_append, String.utf8Len_toList]
    rfl
  | _ =>
    obtain rfl := h
    exact String.utf8Len_toList text

end Spellings

section Bytes

variable {source : String} {p : Placed} {before after : List Char}

theorem isBlank_iff {c : Char} : isBlank c ↔ c ∈ blanks := by
  simp [isBlank, blanks, or_assoc]

theorem utf8EncodeChar_of_isBlank {c : Char} (hc : isBlank c) :
    String.utf8EncodeChar c = [c.toUInt8] := by
  simp only [isBlank_iff, blanks, List.mem_cons, List.not_mem_nil, or_false] at hc
  rcases hc with rfl | rfl | rfl | rfl | rfl | rfl <;> decide

theorem getElem?_toByteArray (l : List UInt8) (i : Nat) : l.toByteArray[i]? = l[i]? := by
  by_cases hi : i < l.length
  · rw [getElem?_pos l.toByteArray i (by simpa using hi), getElem?_pos l i hi,
      List.getElem_toByteArray]
  · rw [getElem?_neg l.toByteArray i (by simpa using hi), getElem?_neg l i hi]

theorem toByteArray_getElem? (s : String) (i : Nat) :
    s.toByteArray[i]? = (s.toList.flatMap String.utf8EncodeChar)[i]? := by
  rw [toByteArray_eq, getElem?_toByteArray]

theorem length_flatMap_utf8EncodeChar (cs : List Char) :
    (cs.flatMap String.utf8EncodeChar).length = String.utf8Len cs := by
  induction cs with
  | nil => rfl
  | cons c cs ih =>
    rw [List.flatMap_cons, List.length_append, ih, String.length_utf8EncodeChar, String.utf8Len_cons,
      Nat.add_comm]

theorem Placed.standsIn (h : source.toList = before ++ (p.spelling ++ after))
    (hstart : p.start = String.utf8Len before) : p.StandsIn source := by
  have hstop : p.stop = String.utf8Len before + String.utf8Len p.spelling := by rw [← hstart]; rfl
  obtain rfl : source = String.ofList before ++ (String.ofList p.spelling ++ String.ofList after) := by
    rw [← String.ofList_append, ← String.ofList_append, ← h, String.ofList_toList]
  refine ⟨?_, ?_, ?_⟩
  · rw [hstart, ← String.utf8ByteSize_ofList]
    exact String.Pos.Raw.isValid_rawEndPos.append_right _
  · rw [hstop, ← String.utf8Len_append, ← String.utf8ByteSize_ofList, String.ofList_append,
      ← String.append_assoc]
    exact String.Pos.Raw.isValid_rawEndPos.append_right _
  · rw [hstart, hstop, ← String.utf8ByteSize_ofList, ← String.utf8ByteSize_ofList p.spelling,
      ← String.size_toByteArray, ← String.size_toByteArray, String.toByteArray_append,
      String.toByteArray_append]
    have := ByteArray.extract_append_size_add (a := (String.ofList before).toByteArray) (i := 0)
      (j := (String.ofList p.spelling).toByteArray.size)
      (b := (String.ofList p.spelling).toByteArray ++ (String.ofList after).toByteArray)
    rw [Nat.add_zero] at this
    rw [this, ByteArray.extract_append_eq_left rfl]

theorem mem_blanks_of_getElem? {cs : List Char} (h : ∀ c ∈ cs, isBlank c) {i : Nat} {b : UInt8}
    (hb : (cs.flatMap String.utf8EncodeChar)[i]? = some b) : b ∈ blanks.map Char.toUInt8 := by
  obtain ⟨c, hc, hbc⟩ := List.mem_flatMap.1 (List.mem_of_getElem? hb)
  rw [utf8EncodeChar_of_isBlank (h c hc), List.mem_singleton] at hbc
  exact List.mem_map.2 ⟨c, isBlank_iff.1 (h c hc), hbc.symm⟩

end Bytes

section Spans

variable {o : Nat} {ps : List Placed} {last : List Char}

theorem Layout.start_le (h : Layout o ps last) : ∀ p ∈ ps, o ≤ p.start := by
  induction h with
  | done => simp
  | @next o p ps last _ hstart _ _ ih =>
    have hp : o ≤ p.start := hstart ▸ Nat.le_add_right o _
    refine List.forall_mem_cons.2 ⟨hp, fun q hq => ?_⟩
    exact hp.trans ((Nat.le_add_right _ _).trans (ih q hq))

theorem Layout.pairwise (h : Layout o ps last) : ps.Pairwise fun p q => p.stop ≤ q.start := by
  induction h with
  | done => exact .nil
  | next _ _ _ hps ih => exact .cons hps.start_le ih

/-- A byte of the text that no token spans is that of a blank. -/
theorem Layout.byte_mem_blanks (h : Layout o ps last) {i : Nat} {b : UInt8}
    (hb : ((layoutText ps last).flatMap String.utf8EncodeChar)[i]? = some b)
    (outside : ∀ p ∈ ps, o + i < p.start ∨ p.stop ≤ o + i) : b ∈ blanks.map Char.toUInt8 := by
  induction h generalizing i with
  | done hlast => exact mem_blanks_of_getElem? hlast hb
  | @next o p ps last hgap hstart _ _ ih =>
    obtain ⟨hp, hps⟩ := List.forall_mem_cons.1 outside
    have hstop : p.stop = p.start + String.utf8Len p.spelling := rfl
    rw [layoutText_cons, List.flatMap_append, List.flatMap_append] at hb
    rcases hp with hp | hp
    · rw [List.getElem?_append_left (by rw [length_flatMap_utf8EncodeChar]; omega)] at hb
      exact mem_blanks_of_getElem? hgap hb
    · rw [List.getElem?_append_right (by rw [length_flatMap_utf8EncodeChar]; omega),
        List.getElem?_append_right (by simp only [length_flatMap_utf8EncodeChar]; omega)] at hb
      refine ih hb fun q hq => ?_
      have := hps q hq
      simp only [length_flatMap_utf8EncodeChar]
      omega

end Spans

/-- The text of a source is its placed tokens with blanks before each and after the last. -/
structure Lossless (source : String) (tokens : List Token) (ps : List Placed) (last : List Char) :
    Prop where
  tokens_eq : tokens = ps.map (·.token) ++ [⟨.finish, "", source.utf8ByteSize⟩]
  kinds : ∀ p ∈ ps, p.token.kind ≠ .finish ∧ p.token.kind ≠ .namespaceName
  spelled : ∀ p ∈ ps, p.spelling ≠ [] ∧ p.token.Spells p.spelling
  spans : ∀ p ∈ ps, p.StandsIn source
  in_order : ps.Pairwise fun p q => p.stop ≤ q.start
  outside : ∀ i b, source.toByteArray[i]? = some b → (∀ p ∈ ps, i < p.start ∨ p.stop ≤ i) →
    b ∈ blanks.map Char.toUInt8
  gaps : (∀ p ∈ ps, ∀ c ∈ p.gap, c ∈ blanks) ∧ ∀ c ∈ last, c ∈ blanks
  recovered : source = String.ofList (layoutText ps last)

theorem tokenize_lossless {source : String} {tokens : List Token}
    (h : tokenize source = .ok tokens) : ∃ ps last, Lossless source tokens ps last := by
  obtain ⟨ps, last, hps, htext, rfl⟩ := exists_layout_of_tokenize h
  have found {p : Placed} (hp : p ∈ ps) :
      ∃ q : Pattern, p.spelling ∈ q.language ∧ q.kind = p.token.kind ∧
        q.text p.spelling = p.token.text.toList := by
    obtain ⟨after, hlongest⟩ := hps.longest hp
    exact hlongest.found
  refine ⟨ps, last, ⟨rfl, ?_, ?_, ?_, hps.pairwise, ?_, ⟨?_, ?_⟩, ?_⟩⟩
  · intro p hp
    obtain ⟨q, -, hkind, -⟩ := found hp
    exact hkind ▸ q.kind_ne
  · intro p hp
    obtain ⟨q, hq, hkind, hspelled⟩ := found hp
    obtain ⟨c, v, hw, -⟩ := q.exists_head hq
    exact ⟨by simp [hw], q.spells hq hkind hspelled⟩
  · intro p hp
    obtain ⟨xs, ys, rfl⟩ := List.append_of_mem hp
    rw [layoutText_append, layoutText_cons, layoutText_gap] at htext
    exact p.standsIn htext.symm (by rw [hps.split.2.1, Nat.zero_add])
  · intro i b hb outside
    rw [toByteArray_getElem?, ← htext] at hb
    refine hps.byte_mem_blanks hb fun p hp => ?_
    rw [Nat.zero_add]
    exact outside p hp
  · intro p hp c hc
    obtain ⟨xs, ys, rfl⟩ := List.append_of_mem hp
    exact isBlank_iff.1 (hps.split.1 c hc)
  · intro c hc
    exact isBlank_iff.1 (hps.blank_last c hc)
  · rw [htext, String.ofList_toList]

theorem tokenize_lossless_escapes : ∃ ps last, Lossless "é::ns:b[@t='\\é\\'']\x0b"
    [⟨.axis, "é", 0⟩, ⟨.tag, "ns:b", 4⟩, ⟨.openBracket, "[", 8⟩, ⟨.atSign, "@", 9⟩, ⟨.tag, "t", 10⟩,
      ⟨.operator, "=", 11⟩, ⟨.literal, "\\é\\'", 12⟩, ⟨.closeBracket, "]", 19⟩, ⟨.finish, "", 21⟩]
    ps last :=
  tokenize_lossless (by decide +kernel)

end WidgetLocator.Token
