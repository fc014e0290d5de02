import WidgetLocator.Proofs.Path.ErrorPlace
import WidgetLocator.Proofs.Token.Respacing

/-! Paths that are written anew with other blanks and other quotes. The tokens stay the same apart
from their offsets, so the path is read as the same steps, or it fails in the same way at the token
that corresponds. -/

namespace WidgetLocator.Path

open Token

/-- Two sources with these tokens are read as the same steps, or reading fails at the same place in
the tokens, with errors that differ in their offset only. -/
def ReadAlike (source source' : String) (ts ts' : List Token) : Prop :=
  (∃ ss, parseExpression source = .ok ss ∧ parseExpression source' = .ok ss) ∨
    ∃ (e : ParseError) (i : Nat) (t t' : Token), ts[i]? = some t ∧ ts'[i]? = some t' ∧
      e.offset = t.offset ∧ parseExpression source = .error (.parse e) ∧
      parseExpression source' = .error (.parse (e.move fun _ => t'.offset))

section Alike

variable {ts ts' xs xs' : List Token} {last last' : Token}

theorem renumber_eq_mapIdx (start : Nat) (ts : List Token) :
    renumber start ts = ts.mapIdx fun i t => { t with offset := start + i } := by
  induction ts generalizing start with
  | nil => rfl
  | cons t ts ih => simp [renumber, ih, List.mapIdx_cons, Nat.add_assoc, Nat.add_comm 1]

theorem renumber_append (start : Nat) (xs ys : List Token) :
    renumber start (xs ++ ys) = renumber start xs ++ renumber (start + xs.length) ys := by
  induction xs generalizing start with
  | nil => rfl
  | cons x xs ih => simp [renumber, ih, Nat.add_assoc, Nat.add_comm 1]

def offsetOf (ts : List Token) (i : Nat) : Nat := (ts[i]?.map (·.offset)).getD 0

theorem map_move_renumber (ts : List Token) :
    (renumber 0 ts).map (Token.move (offsetOf ts)) = ts := by
  rw [renumber_eq_mapIdx]
  refine List.ext_getElem? fun i => ?_
  rw [List.getElem?_map, List.getElem?_mapIdx]
  cases h : ts[i]? with
  | none => rfl
  | some t => simp [Token.move, offsetOf, h]

theorem renumber_congr (h : ts.map content = ts'.map content) (start : Nat) :
    renumber start ts = renumber start ts' := by
  induction ts generalizing ts' start with
  | nil => rw [List.map_eq_nil_iff.1 h.symm]
  | cons t ts ih =>
    cases ts' with
    | nil => cases h
    | cons t' ts' =>
      obtain ⟨htoken, hrest⟩ := List.cons.inj h
      obtain ⟨hkind, htext⟩ := Prod.mk.inj htoken
      rw [renumber, renumber, ih hrest, hkind, htext]

/-- An error of the parser has the offset of one of the tokens, the end marker included. -/
theorem exists_offset_of_parse {e : ParseError} (hxs : ∀ x ∈ xs, x.kind ≠ .finish)
    (hlast : last.kind = .finish) (h : parse (xs ++ [last]) = .error e) :
    ∃ (i : Nat) (t : Token), (xs ++ [last])[i]? = some t ∧ e.offset = t.offset := by
  rw [parse_append hxs hlast] at h
  obtain ⟨taken, rest, rfl, hfails, -⟩ := readSteps_fails h
  refine ⟨taken.length, (rest ++ [last]).head (by simp), ?_, ?_⟩
  · rw [List.append_assoc, List.getElem?_append_right (Nat.le_refl _), Nat.sub_self,
      ← List.head?_eq_getElem?, List.head?_eq_some_head]
  · rw [hfails.offset]
    cases rest <;> rfl

theorem parse_move (f : Nat → Nat) (hxs : ∀ x ∈ xs, x.kind ≠ .finish) (hlast : last.kind = .finish) :
    parse ((xs ++ [last]).map (Token.move f)) = (parse (xs ++ [last])).mapError (ParseError.move f) := by
  have hmoved : ∀ x ∈ xs.map (Token.move f), x.kind ≠ .finish := by simpa using hxs
  have hmark : (last.move f).kind = .finish := hlast
  rw [List.map_append, List.map_singleton, parse_append hmoved hmark, parse_append hxs hlast]
  exact readSteps_move f last.offset xs

theorem parse_alike (hxs : ∀ x ∈ xs, x.kind ≠ .finish) (hlast : last.kind = .finish)
    (h : (xs ++ [last]).map content = ts'.map content) :
    (∃ ss, parse (xs ++ [last]) = .ok ss ∧ parse ts' = .ok ss) ∨
      ∃ (e : ParseError) (i : Nat) (t t' : Token), (xs ++ [last])[i]? = some t ∧ ts'[i]? = some t' ∧
        e.offset = t.offset ∧ parse (xs ++ [last]) = .error e ∧
        parse ts' = .error (e.move fun _ => t'.offset) := by
  have hkinds : ∀ x ∈ renumber 0 xs, x.kind ≠ .finish := by
    intro x hx
    obtain ⟨-, -, y, hy, hk⟩ := of_mem_renumber hx
    exact hk ▸ hxs y hy
  have hmark : ({ last with offset := 0 + xs.length } : Token).kind = .finish := hlast
  have hnumbered : renumber 0 (xs ++ [last]) =
      renumber 0 xs ++ [{ last with offset := 0 + xs.length }] := renumber_append 0 xs [last]
  -- both lists are the same numbered list at other offsets
  have hparse (ys : List Token) (hys : (xs ++ [last]).map content = ys.map content) :
      parse ys = (parse (renumber 0 (xs ++ [last]))).mapError (ParseError.move (offsetOf ys)) := by
    have hmoved := map_move_renumber ys
    rw [← renumber_congr hys] at hmoved
    rw [hnumbered] at hmoved ⊢
    rw [← parse_move _ hkinds hmark, hmoved]
  have hts := hparse _ rfl
  have hts' := hparse _ h
  cases hread : parse (renumber 0 (xs ++ [last])) with
  | ok ss => exact .inl ⟨ss, by rw [hts, hread]; rfl, by rw [hts', hread]; rfl⟩
  | error e =>
    rw [hread] at hts hts'
    rw [hnumbered] at hread
    obtain ⟨i, u, hu, hoffset⟩ := exists_offset_of_parse hkinds hmark hread
    rw [← hnumbered, renumber_eq_mapIdx, List.getElem?_mapIdx] at hu
    obtain ⟨t, ht, rfl⟩ := Option.map_eq_some_iff.1 hu
    have hi : e.offset = i := by rw [hoffset, Nat.zero_add]
    obtain ⟨t', ht'⟩ : ∃ t', ts'[i]? = some t' := by
      have hlength := congrArg List.length h
      rw [List.length_map, List.length_map] at hlength
      exact ⟨_, List.getElem?_eq_getElem (hlength ▸ (List.getElem?_eq_some_iff.1 ht).1)⟩
    refine .inr ⟨e.move (offsetOf (xs ++ [last])), i, t, t', ht, ht', ?_, hts, ?_⟩
    · rw [ParseError.offset_move, hi, offsetOf, ht]
      rfl
    · have hplace : offsetOf ts' e.offset = t'.offset := by rw [hi, offsetOf, ht']; rfl
      rw [hts', ParseError.move_move]
      exact congrArg Except.error (ParseError.move_congr hplace)

end Alike

section Sources

variable {source source' : String} {ts ts' : List Token}

theorem readAlike_of_tokenize (h : tokenize source = .ok ts) (h' : tokenize source' = .ok ts')
    (same : ts.map content = ts'.map content) :
    ReadAlike source source' ts ts' := by
  unfold ReadAlike
  rw [parseExpression_of_tokenize h, parseExpression_of_tokenize h']
  obtain ⟨us, rfl, hus⟩ := allowed_of_tokenize h
  have hkinds : ∀ t ∈ us, t.kind ≠ .finish := by
    intro t ht hkind
    obtain ⟨quote, hallowed⟩ := hus t ht
    rw [hkind] at hallowed
    exact hallowed
  rcases parse_alike hkinds rfl same with
    ⟨ss, hread, hread'⟩ | ⟨e, i, t, t', ht, ht', hoffset, hread, hread'⟩
  · exact .inl ⟨ss, by rw [hread]; rfl, by rw [hread']; rfl⟩
  · exact .inr ⟨e, i, t, t', ht, ht', hoffset, by rw [hread]; rfl, by rw [hread']; rfl⟩

end Sources

/-- Valid words that are spaced are read back as they were written, and every source can be written
anew: all of its tokens are allowed, and words for them with any blanks between them and in any
quotes that fit are read as the same tokens and parsed alike. -/
theorem tokenize_respaced :
    (∀ ws last, (∀ w ∈ ws, w.Valid) → Word.Spaced ws last →
      tokenize (Word.source ws last) = .ok (Word.tokens ws last)) ∧
    ∀ source ts, tokenize source = .ok ts → ∃ us, ts = us ++ [endAt source.utf8ByteSize] ∧
      (∀ t ∈ us, ∃ quote, Allowed quote t.text t.kind) ∧
      ∀ ws last, Respells ws us → Word.Spaced ws last →
        tokenize (Word.source ws last) = .ok (Word.tokens ws last) ∧
        (Word.standing ws).map content = us.map content ∧
        ReadAlike source (Word.source ws last) ts (Word.tokens ws last) := by
  refine ⟨fun ws last hws h => Word.tokenize_source hws h, fun source ts h => ?_⟩
  obtain ⟨us, rfl, hus⟩ := allowed_of_tokenize h
  refine ⟨us, rfl, hus, fun ws last hws hspaced => ?_⟩
  have hread := Word.tokenize_source (hws.valid hus) hspaced
  have hsame : (Word.standing ws).map content = us.map content := by rw [Word.map_standing, hws.same]
  refine ⟨hread, hsame, readAlike_of_tokenize h hread ?_⟩
  rw [Word.tokens, List.map_append, List.map_append, hsame]
  rfl

/-- A path that fails at a literal, with more blanks and in the other quotes. -/
theorem tokenize_respaced_requoted : ∃ us', tokenize " a [ @ k \"x\" ]" = .ok us' ∧
    ReadAlike "a[@k 'x']" " a [ @ k \"x\" ]" [⟨.tag, "a", 0⟩, ⟨.openBracket, "[", 1⟩,
      ⟨.atSign, "@", 2⟩, ⟨.tag, "k", 3⟩, ⟨.literal, "x", 5⟩, ⟨.closeBracket, "]", 8⟩, endAt 9] us' := by
  obtain ⟨us, htokens, -, hrespaced⟩ := tokenize_respaced.2 "a[@k 'x']" [⟨.tag, "a", 0⟩,
    ⟨.openBracket, "[", 1⟩, ⟨.atSign, "@", 2⟩, ⟨.tag, "k", 3⟩, ⟨.literal, "x", 5⟩,
    ⟨.closeBracket, "]", 8⟩, endAt 9] (by decide +kernel)
  obtain rfl : [⟨.tag, "a", 0⟩, ⟨.openBracket, "[", 1⟩, ⟨.atSign, "@", 2⟩, ⟨.tag, "k", 3⟩,
      ⟨.literal, "x", 5⟩, ⟨.closeBracket, "]", 8⟩] = us := List.append_inj_left' htokens rfl
  have hx : ['x'] ∈ enclosed '"' := (cons_mem_enclosed (by decide)).2 ⟨by decide, nil_mem_enclosed⟩
  obtain ⟨hread, -, halike⟩ := hrespaced
    [⟨[' '], .tag, "a", ' '⟩, ⟨[' '], .openBracket, "[", ' '⟩, ⟨[' '], .atSign, "@", ' '⟩,
      ⟨[' '], .tag, "k", ' '⟩, ⟨[' '], .literal, "x", '"'⟩, ⟨[' '], .closeBracket, "]", ' '⟩] []
    ⟨rfl, by simpa using (encloses_iff (by decide)).2 hx⟩ ⟨by simp [isBlank], by simp, by simp⟩
  exact ⟨_, hread, halike⟩

end WidgetLocator.Path
