import WidgetLocator.Proofs.Path.EndMarker
import WidgetLocator.Proofs.Token.Lossless

/-! Tokens without their end marker. The reading then stops after the text of the last token. That is the
end of the source for most tokens, but the spelling of a literal or of an axis is longer than its text,
by two quotes or by two colons, and an error at the end has an offset before them. -/

namespace WidgetLocator

theorem ParseError.move_eq_self_iff {f : Nat → Nat} {e : ParseError} :
    e.move f = e ↔ f e.offset = e.offset := by
  cases e <;> simp [move, offset]

namespace Path

open Text Token

section Places

variable {source : String} {ts xs ys : List Token} {t : Token}

/-- The bytes by which the spelling of the last token is longer than its text. -/
def shortfall (ts : List Token) : Nat := (ts.getLast?.map (·.kind.hidden)).getD 0

theorem shortfall_eq_zero_iff :
    shortfall ts = 0 ↔ ∀ t ∈ ts.getLast?, t.kind ≠ .literal ∧ t.kind ≠ .axis := by
  have hidden_iff (k : Token.Kind) : k.hidden = 0 ↔ k ≠ .literal ∧ k ≠ .axis := by
    cases k <;> decide
  rw [shortfall]
  cases ts.getLast? <;> simp [hidden_iff]

theorem exists_layout_unmarked (h : tokenize source = .ok (ts ++ [endAt source.utf8ByteSize]))
    (hsource : ∀ c ∈ source.toList.getLast?, isBlank c = false) :
    ∃ ps, Layout 0 ps [] ∧ layoutText ps [] = source.toList ∧ ts = ps.map (·.token) := by
  obtain ⟨ps, last, hps, htext, htokens⟩ := exists_layout_of_tokenize h
  obtain rfl : last = [] := hps.last_eq_nil (htext ▸ hsource)
  exact ⟨ps, hps, htext, List.append_inj_left' htokens rfl⟩

theorem place_of_tokenize (h : tokenize source = .ok (ts ++ [endAt source.utf8ByteSize]))
    (hsource : ∀ c ∈ source.toList.getLast?, isBlank c = false) (hts : ts = xs ++ t :: ys) :
    t.kind ≠ .finish ∧ t.offset < source.utf8ByteSize ∧
      (ys = [] → t.offset + (t.text.utf8ByteSize + t.kind.hidden) = source.utf8ByteSize) := by
  obtain ⟨ps, hps, htext, hmap⟩ := exists_layout_unmarked h hsource
  obtain ⟨qs, rest, rfl, rfl, hrest⟩ := List.map_eq_append_iff.1 (hmap.symm.trans hts)
  obtain ⟨p, rs, rfl, rfl, rfl⟩ := List.map_eq_cons_iff.1 hrest
  have hlongest : LongestMatch (p.spelling ++ layoutText rs []) p.lexeme := hps.split.2.2.1
  obtain ⟨q, hq, hkind, hfound⟩ := hlongest.found
  have hkind' : q.kind = p.token.kind := hkind
  have hspells : p.token.Spells p.spelling := q.spells hq hkind hfound
  have hsize : p.token.offset + String.utf8Len p.spelling + String.utf8Len (layoutText rs []) =
      source.utf8ByteSize := by
    have hstop := hps.stop_add
    rwa [htext, String.utf8Len_toList, Nat.zero_add] at hstop
  have hpos : 0 < String.utf8Len p.spelling := utf8Len_pos hlongest.spelling_ne_nil
  refine ⟨hkind' ▸ q.kind_ne.1, by omega, fun hrs => ?_⟩
  obtain rfl := List.map_eq_nil_iff.1 hrs
  rw [← hspells.utf8Len, ← hsize]
  rfl

theorem kind_ne_finish_of_tokenize (h : tokenize source = .ok (ts ++ [endAt source.utf8ByteSize]))
    (hsource : ∀ c ∈ source.toList.getLast?, isBlank c = false) : ∀ t ∈ ts, t.kind ≠ .finish := by
  intro t ht
  obtain ⟨xs, ys, hts⟩ := List.append_of_mem ht
  exact (place_of_tokenize h hsource hts).1

theorem stopOffset_of_tokenize (h : tokenize source = .ok (ts ++ [endAt source.utf8ByteSize]))
    (hsource : ∀ c ∈ source.toList.getLast?, isBlank c = false) :
    stopOffset ts + shortfall ts = source.utf8ByteSize := by
  have hkinds : ts.find? (·.kind == .finish) = none :=
    List.find?_eq_none.2 (by simpa using kind_ne_finish_of_tokenize h hsource)
  rcases List.eq_nil_or_concat ts with rfl | ⟨xs, t, hts⟩
  · obtain ⟨ps, -, htext, hmap⟩ := exists_layout_unmarked h hsource
    obtain rfl := List.map_eq_nil_iff.1 hmap.symm
    rw [← String.utf8Len_toList, ← htext]
    rfl
  · rw [List.concat_eq_append] at hts
    have hplace := (place_of_tokenize h hsource hts).2.2 rfl
    rw [stopOffset, hkinds, ← hplace, shortfall, hts, List.getLast?_append, ← Nat.add_assoc]
    rfl

/-- An error at the end is found earlier by what the spelling of the last token has over its text. -/
theorem parse_eq_mapError (h : tokenize source = .ok (ts ++ [endAt source.utf8ByteSize]))
    (hsource : ∀ c ∈ source.toList.getLast?, isBlank c = false) :
    parse ts = (parse (ts ++ [endAt source.utf8ByteSize])).mapError (ParseError.move fun o =>
      if o = source.utf8ByteSize then o - shortfall ts else o) := by
  have hkinds := kind_ne_finish_of_tokenize h hsource
  -- all tokens begin before the end of the source, so only the end can move
  have hmoved : ts.map (Token.move fun o =>
      if o = source.utf8ByteSize then o - shortfall ts else o) = ts := by
    refine (List.map_congr_left fun t ht => ?_).trans (List.map_id ts)
    obtain ⟨xs, ys, hts⟩ := List.append_of_mem ht
    have hlt := (place_of_tokenize h hsource hts).2.1
    simp [Token.move, hlt.ne]
  have hread := readSteps_move (fun o => if o = source.utf8ByteSize then o - shortfall ts else o)
    source.utf8ByteSize ts
  rw [hmoved, if_pos rfl, ← Nat.eq_sub_of_add_eq (stopOffset_of_tokenize h hsource)] at hread
  rw [parse_append hkinds rfl, parse_eq, body_eq_self hkinds]
  exact hread

end Places

/-- Without its end marker a source is read as with it, except that an error at the end can have a
smaller offset. It has one just when the last token is a literal or an axis. -/
theorem parse_unmarked_iff {source : String} {ts : List Token}
    (h : tokenize source = .ok (ts ++ [endAt source.utf8ByteSize]))
    (hsource : ∀ c ∈ source.toList.getLast?, isBlank c = false) :
    parse ts = (parse (ts ++ [endAt source.utf8ByteSize])).mapError (ParseError.move fun o =>
        if o = source.utf8ByteSize then o - shortfall ts else o) ∧
      (parse ts = parse (ts ++ [endAt source.utf8ByteSize]) ↔
        (∀ t ∈ ts.getLast?, t.kind ≠ .literal ∧ t.kind ≠ .axis) ∨
        ∀ e, parse (ts ++ [endAt source.utf8ByteSize]) = .error e → e.offset ≠ source.utf8ByteSize) := by
  have hstop := stopOffset_of_tokenize h hsource
  have hread := parse_eq_mapError h hsource
  refine ⟨hread, ?_⟩
  rw [hread, mapError_eq_self_iff, ← shortfall_eq_zero_iff]
  simp only [ParseError.move_eq_self_iff]
  constructor
  · intro hsame
    by_cases hzero : shortfall ts = 0
    · exact .inl hzero
    · refine .inr fun e he hend => ?_
      have hmove := hsame e he
      rw [if_pos hend] at hmove
      omega
  · intro hcases e he
    split_ifs with hend
    · rcases hcases with hzero | hother
      · rw [hzero, Nat.sub_zero]
      · exact absurd hend (hother e he)
    · rfl

/-- A literal at the end of a predicate that is not closed, and one where no literal can stand. -/
theorem parse_unmarked_iff_literal :
    (∃ ts, tokenize "row[@id='é'" = .ok (ts ++ [endAt 12]) ∧ parse ts ≠ parse (ts ++ [endAt 12])) ∧
      ∃ ts, tokenize "row 'é'" = .ok (ts ++ [endAt 8]) ∧ parse ts = parse (ts ++ [endAt 8]) := by
  constructor
  · have h : tokenize "row[@id='é'" = .ok ([⟨.tag, "row", 0⟩, ⟨.openBracket, "[", 3⟩, ⟨.atSign, "@", 4⟩,
        ⟨.tag, "id", 5⟩, ⟨.operator, "=", 7⟩, ⟨.literal, "é", 8⟩] ++ [endAt 12]) := by decide +kernel
    have hparse : parse ([⟨.tag, "row", 0⟩, ⟨.openBracket, "[", 3⟩, ⟨.atSign, "@", 4⟩,
        ⟨.tag, "id", 5⟩, ⟨.operator, "=", 7⟩, ⟨.literal, "é", 8⟩] ++ [endAt 12]) =
          .error (.noClosingBracket 12 "end of input") := by decide +kernel
    refine ⟨_, h, fun hsame => ?_⟩
    have hsource : ∀ c ∈ "row[@id='é'".toList.getLast?, isBlank c = false := by rintro _ ⟨⟩; decide
    rcases (parse_unmarked_iff h hsource).2.1 hsame with hlast | hother
    · exact absurd rfl (hlast _ rfl).1
    · exact hother _ hparse rfl
  · have h : tokenize "row 'é'" = .ok ([⟨.tag, "row", 0⟩, ⟨.literal, "é", 4⟩] ++ [endAt 8]) := by
      decide +kernel
    have hparse : parse ([⟨.tag, "row", 0⟩, ⟨.literal, "é", 4⟩] ++ [endAt 8]) =
        .error (.noNodeTest 4 "''é''") := by decide +kernel
    have hsource : ∀ c ∈ "row 'é'".toList.getLast?, isBlank c = false := by rintro _ ⟨⟩; decide
    refine ⟨_, h, (parse_unmarked_iff h hsource).2.2 (.inr fun e he => ?_)⟩
    obtain rfl : ParseError.noNodeTest 4 "''é''" = e := Except.error.inj (hparse.symm.trans he)
    decide

/-- A missing marker after an axis. -/
theorem not_parse_unmarked_axis : tokenize "child::" = .ok ([⟨.axis, "child", 0⟩] ++ [endAt 7]) ∧
    (∀ c ∈ "child::".toList.getLast?, isBlank c = false) ∧
    parse ([⟨.axis, "child", 0⟩] ++ [endAt 7]) = .error (.noNodeTest 7 "end of input") ∧
    parse [⟨.axis, "child", 0⟩] = .error (.noNodeTest 5 "end of input") ∧
    parse [⟨.axis, "child", 0⟩] ≠ parse ([⟨.axis, "child", 0⟩] ++ [endAt 7]) := by
  refine ⟨by decide +kernel, ?_, by decide +kernel, by decide +kernel, by decide +kernel⟩
  rintro _ ⟨⟩
  decide

end Path
end WidgetLocator
