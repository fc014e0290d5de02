import WidgetLocator.Proofs.Path.Failure
import WidgetLocator.Proofs.Path.Relocation
import WidgetLocator.Proofs.Pipeline.Reading

/-! The place of an error in a whole list of tokens, whose offsets grow and which one end marker
closes. The error names the offset of one of the tokens. Those before it can be completed to a path,
and what comes later than two tokens after it does not matter. -/

namespace WidgetLocator

/-- The offsets grow, and the end marker stands at the end and nowhere else. -/
structure Token.Terminated (ts : List Token) : Prop where
  increasing : ts.Pairwise fun t u => t.offset < u.offset
  closed : ∃ xs t, ts = xs ++ [t] ∧ t.kind = .finish ∧ ∀ x ∈ xs, x.kind ≠ .finish

namespace Path

open Token Grammar

section Kinds

variable {t : Token}

theorem kind_ne_finish_of_mem_clause {c : Clause} (h : t ∈ c.tokens) : t.kind ≠ .finish := by
  cases c with
  | bare name op value =>
    rcases either_kind value with hv | hv <;>
      simp only [Clause.tokens, List.mem_cons, List.not_mem_nil, or_false] at h <;>
      rcases h with rfl | rfl | rfl <;> simp [name.2, op.kind, hv]
  | quoted sign name op value =>
    simp only [Clause.tokens, List.mem_cons, List.not_mem_nil, or_false] at h
    rcases h with rfl | rfl | rfl | rfl <;> simp [sign.2, name.2, op.kind, value.2]
  | position u | connective u =>
    obtain rfl := List.mem_singleton.1 h
    simp [u.2]

theorem kind_ne_finish_of_mem_optional {k : Token.Kind} {a : Option (Leaf k)} (hk : k ≠ .finish)
    (h : t ∈ optionalToken a) : t.kind ≠ .finish := by
  cases a with
  | none => simp [optionalToken] at h
  | some u =>
    obtain rfl := List.mem_singleton.1 h
    rwa [u.2]

theorem kind_ne_finish_of_mem_step {s : StepTree} (h : t ∈ s.tokens) : t.kind ≠ .finish := by
  obtain ⟨axis, test, brackets, ns⟩ := s
  simp only [StepTree.tokens, List.mem_append, List.mem_cons] at h
  rcases h with (haxis | rfl | hbrackets) | hns
  · exact kind_ne_finish_of_mem_optional (by decide) haxis
  · rcases either_kind test with hk | hk <;> simp [hk]
  · cases brackets with
    | none => simp at hbrackets
    | some b =>
      simp only [Option.elim_some, Brackets.tokens, List.mem_append, List.mem_cons,
        List.not_mem_nil, or_false, clauseTokens, List.mem_flatMap] at hbrackets
      rcases hbrackets with (rfl | ⟨c, -, hc⟩) | rfl
      · simp [b.opening.2]
      · exact kind_ne_finish_of_mem_clause hc
      · simp [b.closing.2]
  · exact kind_ne_finish_of_mem_optional (by decide) hns

theorem kind_ne_finish_of_mem_tokens {d : Derivation} (h : t ∈ tokens d) : t.kind ≠ .finish := by
  obtain ⟨i, -, hi⟩ := List.mem_flatMap.1 h
  cases i with
  | doubleSlash u =>
    obtain rfl := List.mem_singleton.1 hi
    simp [u.2]
  | slashes u single v =>
    simp only [Item.tokens, List.mem_cons, List.not_mem_nil, or_false] at hi
    rcases hi with rfl | rfl
    · simp [u.2]
    · simp [v.2]
  | step slash s =>
    rcases List.mem_append.1 hi with hi | hi
    · exact kind_ne_finish_of_mem_optional (by decide) hi
    · exact kind_ne_finish_of_mem_step hi

end Kinds

section Bodies

variable {xs ys : List Token} {t u : Token}

theorem body_append (hxs : ∀ x ∈ xs, x.kind ≠ .finish) (ht : t.kind = .finish) :
    body (xs ++ t :: ys) = xs := by
  rw [body, List.takeWhile_append_of_pos (by simpa using hxs)]
  simp [ht]

theorem stopOffset_append (hxs : ∀ x ∈ xs, x.kind ≠ .finish) (ht : t.kind = .finish) :
    stopOffset (xs ++ t :: ys) = t.offset := by
  have hfind : (xs ++ t :: ys).find? (·.kind == .finish) = some t := by
    rw [List.find?_append, List.find?_eq_none.2 (by simpa using hxs)]
    simp [ht]
  rw [stopOffset, hfind]

theorem parse_append (hxs : ∀ x ∈ xs, x.kind ≠ .finish) (ht : t.kind = .finish) :
    parse (xs ++ t :: ys) = readSteps t.offset xs := by
  rw [parse_eq, body_append hxs ht, stopOffset_append hxs ht]

theorem prefix_body (hxs : ∀ x ∈ xs, x.kind ≠ .finish) (hu : u.kind = .finish)
    (h : xs <+: ys ++ [u]) : xs <+: ys := by
  rcases List.prefix_concat_iff.1 h with rfl | h
  · exact absurd hu (hxs u (by simp))
  · exact h

/-- A list that an end marker closes is at the head of no longer list of this form. -/
theorem eq_of_prefix (ht : t.kind = .finish) (hys : ∀ y ∈ ys, y.kind ≠ .finish)
    (h : xs ++ [t] <+: ys ++ [u]) : xs ++ [t] = ys ++ [u] := by
  rcases List.prefix_concat_iff.1 h with h | h
  · exact h
  · exact absurd ht (hys t (h.subset (by simp)))

end Bodies

section Completion

def renumber (start : Nat) : List Token → List Token
  | [] => []
  | t :: ts => { t with offset := start } :: renumber (start + 1) ts

variable {start stop stop' : Nat} {ts us : List Token}

theorem renumber_move (start : Nat) (ts : List Token) :
    (renumber start ts).map (Token.move fun _ => 0) = ts.map (Token.move fun _ => 0) := by
  induction ts generalizing start with
  | nil => rfl
  | cons t ts ih => simp [renumber, ih, Token.move]

theorem of_mem_renumber {t : Token} (h : t ∈ renumber start ts) :
    start ≤ t.offset ∧ t.offset < start + ts.length ∧ ∃ u ∈ ts, t.kind = u.kind := by
  induction ts generalizing start with
  | nil => simp [renumber] at h
  | cons u ts ih =>
    rcases List.mem_cons.1 h with rfl | h
    · simp
    · obtain ⟨hstart, hlast, v, hv, hk⟩ := ih h
      refine ⟨by omega, by simp; omega, v, by simp [hv], hk⟩

theorem pairwise_renumber (start : Nat) (ts : List Token) :
    (renumber start ts).Pairwise fun t u => t.offset < u.offset := by
  induction ts generalizing start with
  | nil => exact .nil
  | cons t ts ih =>
    refine .cons (fun u hu => ?_) (ih (start + 1))
    have := (of_mem_renumber hu).1
    simp only
    omega

theorem readSteps_ok_of_move {ss : List Step}
    (h : ts.map (Token.move fun _ => 0) = us.map (Token.move fun _ => 0))
    (hread : readSteps stop ts = .ok ss) : readSteps stop' us = .ok ss := by
  have hts := readSteps_move (fun _ => 0) stop ts
  have hus := readSteps_move (fun _ => 0) stop' us
  rw [h, hread] at hts
  rw [hts] at hus
  exact mapError_eq_ok_iff.1 hus.symm

/-- The beginning of a path can be completed by tokens that stand after it. -/
theorem exists_completion {taken : List Token} {d : Derivation} (hd : taken <+: tokens d)
    (increasing : taken.Pairwise fun t u => t.offset < u.offset) (bound : ∀ t ∈ taken, t.offset < start) :
    ∃ more ss, Terminated (taken ++ more) ∧ parse (taken ++ more) = .ok ss := by
  obtain ⟨more, hmore⟩ := hd
  have hkinds : ∀ t ∈ taken ++ renumber start more, t.kind ≠ .finish := by
    intro t ht
    rcases List.mem_append.1 ht with ht | ht
    · exact kind_ne_finish_of_mem_tokens (hmore ▸ List.mem_append_left more ht)
    · obtain ⟨-, -, u, hu, hk⟩ := of_mem_renumber ht
      rw [hk]
      exact kind_ne_finish_of_mem_tokens (hmore ▸ List.mem_append_right taken hu)
  have hread : readSteps (start + more.length) (taken ++ renumber start more) = .ok (steps d) := by
    refine readSteps_ok_of_move ?_ (@readSteps_complete 0 d)
    rw [← hmore, List.map_append, List.map_append, renumber_move]
  refine ⟨renumber start more ++ [endAt (start + more.length)], steps d, ⟨?_, ?_⟩, ?_⟩
  · rw [← List.append_assoc, List.pairwise_append, List.pairwise_append]
    refine ⟨⟨increasing, pairwise_renumber start more, fun t ht u hu => ?_⟩, List.pairwise_singleton _ _,
      fun t ht u hu => ?_⟩
    · exact (bound t ht).trans_le (of_mem_renumber hu).1
    · obtain rfl := List.mem_singleton.1 hu
      rcases List.mem_append.1 ht with ht | ht
      · exact (bound t ht).trans_le (Nat.le_add_right _ _)
      · exact (of_mem_renumber ht).2.1
  · exact ⟨taken ++ renumber start more, endAt (start + more.length), by simp, rfl, hkinds⟩
  · rw [← List.append_assoc]
    exact (parse_append hkinds rfl).trans hread

end Completion

/-- An error of the parser stands at the `i`-th token. The tokens before it can go on to a path, and any
list of tokens that begins with the same tokens up to two places after it fails with the same
error. That a bracket is not closed is said of the end marker only. -/
theorem parse_error_place {ts : List Token} {e : ParseError} (hts : Terminated ts)
    (h : parse ts = .error e) :
    ∃ (i : Nat) (t : Token), ts[i]? = some t ∧ e.offset = t.offset ∧
      (∃ more ss, Terminated (ts.take i ++ more) ∧ parse (ts.take i ++ more) = .ok ss) ∧
      (∀ us, Terminated us → ts.take (i + 3) <+: us → parse us = .error e) ∧
      ∀ offset found, e = .noClosingBracket offset found → t.kind = .finish := by
  obtain ⟨increasing, xs, last, rfl, hlast, hxs⟩ := hts
  rw [parse_append hxs hlast] at h
  obtain ⟨taken, rest, rfl, hfails, d, hd⟩ := readSteps_fails h
  obtain ⟨t, hhead, hoffset⟩ : ∃ t, (rest ++ [last]).head? = some t ∧ offsetAt last.offset rest = t.offset := by
    cases rest with
    | nil => exact ⟨last, rfl, rfl⟩
    | cons t rest => exact ⟨t, rfl, rfl⟩
  rw [List.append_assoc] at increasing
  obtain ⟨htaken, -, hlater⟩ := List.pairwise_append.1 increasing
  refine ⟨taken.length, t, ?_, hfails.offset.trans hoffset, ?_, fun us hus hprefix => ?_, ?_⟩
  · rw [List.append_assoc, List.getElem?_append_right (Nat.le_refl _), Nat.sub_self,
      ← List.head?_eq_getElem?, hhead]
  · rw [List.append_assoc, List.take_left]
    exact exists_completion hd htaken fun a ha => hlater a ha t (List.mem_of_mem_head? hhead)
  · obtain ⟨-, ys, u, rfl, hu, hys⟩ := hus
    by_cases hlong : 3 ≤ rest.length
    · rw [List.append_assoc, List.take_length_add_append, List.take_append_of_le_length hlong] at hprefix
      have hkinds : ∀ x ∈ taken ++ rest.take 3, x.kind ≠ .finish := by
        intro x hx
        refine hxs x ?_
        rcases List.mem_append.1 hx with hx | hx
        · exact List.mem_append_left _ hx
        · exact List.mem_append_right _ (List.mem_of_mem_take hx)
      obtain ⟨more, rfl⟩ := prefix_body hkinds hu hprefix
      have hagree : Agree 3 rest (rest.take 3 ++ more) :=
        ⟨rest.take 3, by simp [hlong], List.take_prefix _ _, List.prefix_append _ _⟩
      rw [parse_append hys hu, List.append_assoc]
      exact hfails.settled _ _ hagree
    · -- the end marker is among the tokens that the two lists share
      have hall : taken ++ rest ++ [last] <+: ys ++ [u] := by
        rwa [List.take_of_length_le (by simp; omega)] at hprefix
      rw [← eq_of_prefix hlast hys hall, parse_append hxs hlast]
      exact h
  · intro offset found he
    obtain rfl := hfails.unclosed offset found he
    obtain rfl : last = t := by simpa using hhead
    exact hlast

/-- A name that is no condition, since no value comes after its operator. -/
theorem parse_error_place_price : ∃ ts e, tokenize "a[@id='x' price=]" = .ok ts ∧ Terminated ts ∧
    parse ts = .error e ∧ e = .notACondition 10 "'price'" ∧
      ∃ (i : Nat) (t : Token), ts[i]? = some t ∧ e.offset = t.offset ∧
        (∃ more ss, Terminated (ts.take i ++ more) ∧ parse (ts.take i ++ more) = .ok ss) ∧
        (∀ us, Terminated us → ts.take (i + 3) <+: us → parse us = .error e) ∧
        ∀ offset found, e = .noClosingBracket offset found → t.kind = .finish := by
  have htokens : tokenize "a[@id='x' price=]" = .ok ([⟨.tag, "a", 0⟩, ⟨.openBracket, "[", 1⟩,
      ⟨.atSign, "@", 2⟩, ⟨.tag, "id", 3⟩, ⟨.operator, "=", 5⟩, ⟨.literal, "x", 6⟩, ⟨.tag, "price", 10⟩,
      ⟨.operator, "=", 15⟩, ⟨.closeBracket, "]", 16⟩] ++ [endAt 17]) := by decide +kernel
  have hts : Terminated ([⟨.tag, "a", 0⟩, ⟨.openBracket, "[", 1⟩, ⟨.atSign, "@", 2⟩, ⟨.tag, "id", 3⟩,
      ⟨.operator, "=", 5⟩, ⟨.literal, "x", 6⟩, ⟨.tag, "price", 10⟩, ⟨.operator, "=", 15⟩,
      ⟨.closeBracket, "]", 16⟩] ++ [endAt 17]) := ⟨by decide, _, _, rfl, rfl, by decide⟩
  have hparse : parse ([⟨.tag, "a", 0⟩, ⟨.openBracket, "[", 1⟩, ⟨.atSign, "@", 2⟩, ⟨.tag, "id", 3⟩,
      ⟨.operator, "=", 5⟩, ⟨.literal, "x", 6⟩, ⟨.tag, "price", 10⟩, ⟨.operator, "=", 15⟩,
      ⟨.closeBracket, "]", 16⟩] ++ [endAt 17]) = .error (.notACondition 10 "'price'") := by
    decide +kernel
  exact ⟨_, _, htokens, hts, hparse, rfl, parse_error_place hts hparse⟩

end Path
end WidgetLocator
