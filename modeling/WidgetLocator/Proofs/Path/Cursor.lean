import Mathlib.Tactic.SplitIfs
import WidgetLocator.Proofs.Path.Rest

/-! What a cursor reads. The tokens left at a cursor are those from its place up to the next end marker,
and each reader does on a cursor what its counterpart does on the tokens left there: the same result or
the same error, and the same tokens left after it. So a list of tokens is read as if it were cut at its
first end marker. -/

namespace WidgetLocator.Path

namespace Cursor

section Places

variable {ts : List Token} {c : Cursor ts} {kind : Token.Kind} {t : Token}

def left (c : Cursor ts) : List Token := body (ts.drop c.pos)

def withLeft {α : Type} (found : α × Cursor ts) : α × List Token := (found.1, found.2.left)

theorem left_of_isAtEnd (h : c.isAtEnd) : c.left = [] := by
  rw [isAtEnd, current?] at h
  cases hcurrent : ts[c.pos]? with
  | none =>
    rw [left, List.drop_eq_nil_of_le (List.getElem?_eq_none_iff.1 hcurrent)]
    rfl
  | some t =>
    obtain ⟨hlt, rfl⟩ := List.getElem?_eq_some_iff.1 hcurrent
    rw [hcurrent, Option.all_some, beq_iff_eq] at h
    rw [left, List.drop_eq_getElem_cons hlt, body, List.takeWhile_cons_of_neg (by simp [h])]

theorem exists_left (h : c.isAtEnd = false) :
    ∃ t, c.current? = some t ∧ t.kind ≠ .finish ∧ c.left = t :: (c.next h).left := by
  obtain ⟨t, ht, hkind⟩ := exists_current h
  refine ⟨t, ht, hkind, ?_⟩
  obtain ⟨hlt, rfl⟩ := List.getElem?_eq_some_iff.1 ht
  rw [left, List.drop_eq_getElem_cons hlt, body, List.takeWhile_cons_of_pos (by simpa using hkind)]
  rfl

/-- A cursor is at the end, and then nothing is left, or it stands at the first token left. -/
theorem place (c : Cursor ts) : (c.isAtEnd ∧ c.left = []) ∨
    ∃ (t : Token) (h : c.isAtEnd = false), c.current? = some t ∧ t.kind ≠ .finish ∧
      c.left = t :: (c.next h).left := by
  rcases Bool.eq_false_or_eq_true c.isAtEnd with h | h
  · exact .inl ⟨h, left_of_isAtEnd h⟩
  · obtain ⟨t, ht⟩ := exists_left h
    exact .inr ⟨t, h, ht⟩

theorem check_eq (c : Cursor ts) (kind : Token.Kind) : c.check kind = c.left.head?.any (·.kind == kind) := by
  rcases c.place with ⟨hend, hleft⟩ | ⟨t, hend, ht, -, hleft⟩
  · simp [check, hend, hleft]
  · simp [check, hend, ht, hleft]

theorem match?_of_current {h : c.isAtEnd = false} (ht : c.current? = some t) :
    c.match? kind = if t.kind = kind then some (t, c.next h) else none := by
  rw [match?, check, h, advance?, dif_pos h, ht]
  by_cases hk : t.kind = kind
  · rw [if_pos (by simpa using hk), if_pos hk, Option.map_some]
  · rw [if_neg (by simpa using hk), if_neg hk]

theorem match?_eq (c : Cursor ts) (kind : Token.Kind) :
    (c.match? kind).map withLeft = take? kind c.left := by
  rcases c.place with ⟨hend, hleft⟩ | ⟨t, hend, ht, -, hleft⟩
  · simp [match?, check, hend, hleft, take?]
  · rw [match?_of_current (h := hend) ht, hleft, take?]
    split_ifs <;> rfl

theorem describe_eq (c : Cursor ts) : c.describe = foundAt c.left := by
  rcases c.place with ⟨hend, hleft⟩ | ⟨t, _, ht, hkind, hleft⟩
  · rw [hleft, foundAt, describe]
    cases hcurrent : c.current? with
    | none => rfl
    | some t =>
      have hkind : t.kind = .finish := by simpa [isAtEnd, hcurrent] using hend
      simp [hkind]
  · simp [describe, ht, hkind, hleft, foundAt]

/-- No end marker has been read, so a cursor at the end is at the first one, or there is none. -/
theorem offset_of_isAtEnd (h : c.isAtEnd) : c.offset = stopOffset ts := by
  rw [isAtEnd, current?] at h
  rw [offset, current?, stopOffset]
  cases hcurrent : ts[c.pos]? with
  | none =>
    have hall : ts.take c.pos = ts := List.take_of_length_le (List.getElem?_eq_none_iff.1 hcurrent)
    have hnone : ts.find? (·.kind == .finish) = none :=
      List.find?_eq_none.2 (by simpa using hall ▸ c.before)
    rw [hnone]
  | some t =>
    obtain ⟨hlt, rfl⟩ := List.getElem?_eq_some_iff.1 hcurrent
    rw [hcurrent, Option.all_some] at h
    have hfound : ts.find? (·.kind == .finish) = some ts[c.pos] := by
      refine List.find?_eq_some_iff_append.2 ⟨h, ts.take c.pos, ts.drop (c.pos + 1), ?_, ?_⟩
      · rw [← List.drop_eq_getElem_cons hlt, List.take_append_drop]
      · simpa using c.before
    rw [hfound]

theorem offset_of_current (ht : c.current? = some t) : c.offset = t.offset := by
  rw [offset, ht]

theorem offset_eq (c : Cursor ts) : c.offset = offsetAt (stopOffset ts) c.left := by
  rcases c.place with ⟨hend, hleft⟩ | ⟨t, _, ht, -, hleft⟩
  · rw [hleft, offsetAt, offset_of_isAtEnd hend]
  · rw [hleft, offsetAt, offset_of_current ht]

theorem kind_body (us : List Token) (n : Nat) : ((body us)[n]?.map (·.kind)).getD .finish =
    if (us.take (n + 1)).any (·.kind == .finish) then .finish else (us[n]?.map (·.kind)).getD .finish := by
  induction us generalizing n with
  | nil => simp [body]
  | cons u us ih =>
    by_cases hu : u.kind = .finish
    · simp [body, hu]
    · have hbody : body (u :: us) = u :: body us := List.takeWhile_cons_of_pos (by simpa using hu)
      rw [hbody, List.take_succ_cons, List.any_cons, beq_eq_false_iff_ne.2 hu, Bool.false_or]
      cases n with
      | zero => simp
      | succ n => rw [List.getElem?_cons_succ, List.getElem?_cons_succ, ih]

/-- What is seen ahead are the tokens left, and end markers behind them. -/
theorem peekKind_eq (c : Cursor ts) (n : Nat) : c.peekKind n = (c.left[n]?.map (·.kind)).getD .finish := by
  rw [left, kind_body, peekKind, List.getElem?_drop]

example : (start [⟨.tag, "a", 0⟩, Token.endAt 1, ⟨.tag, "b", 2⟩]).peekKind 2 = .finish := by decide

end Places

section Conditions

variable {ts : List Token} {c : Cursor ts} {kind : Token.Kind} {expected : Expected} {t : Token}

theorem bind_withLeft {α β : Type} {x : Except ParseError (α × Cursor ts)}
    {y : Except ParseError (α × List Token)} {f : α × Cursor ts → Except ParseError (β × Cursor ts)}
    {g : α × List Token → Except ParseError (β × List Token)} (hx : x.map withLeft = y)
    (hf : ∀ a c, (f (a, c)).map withLeft = g (a, c.left)) : (x >>= f).map withLeft = y >>= g := by
  subst hx
  cases x with
  | error e => rfl
  | ok found => exact hf found.1 found.2

theorem consume_eq (c : Cursor ts) (expected : Expected) :
    (c.consume kind expected).map withLeft = expect (stopOffset ts) kind expected c.left := by
  rw [consume, expect, ← match?_eq, offset_eq, describe_eq]
  cases c.match? kind <;> rfl

theorem offset_of_consume {found : Token × Cursor ts} (h : c.consume kind expected = .ok found) :
    c.offset = found.1.offset := by
  rcases c.place with ⟨hend, -⟩ | ⟨t, hend, ht, -, -⟩
  · simp [consume, match?, check, hend] at h
  · rw [consume, match?_of_current (h := hend) ht] at h
    split_ifs at h
    cases h
    exact offset_of_current ht

theorem readComparison_eq (c : Cursor ts) :
    c.readComparison.map withLeft = Path.readComparison (stopOffset ts) c.left := by
  rw [readComparison, Path.readComparison, ← consume_eq]
  cases heard : c.consume .operator .comparison with
  | error e => rfl
  | ok found =>
    -- the offset of the error is taken before the operator is read
    rw [offset_of_consume heard]
    simp only [bind, Except.bind, Except.map, withLeft]
    cases Comparison.ofSymbol? found.1.text <;> rfl

theorem readBareValue_eq (c : Cursor ts) :
    c.readBareValue.map withLeft = Path.readBareValue (stopOffset ts) c.left := by
  rw [readBareValue, Path.readBareValue, ← match?_eq, ← consume_eq]
  cases c.match? .literal <;> rfl

theorem atBareTest_eq (c : Cursor ts) : c.atBareTest = Path.atBareTest c.left := by
  rw [atBareTest, check_eq, peekKind_eq, peekKind_eq]
  rcases c.left with _ | ⟨t, _ | ⟨u, _ | ⟨v, us⟩⟩⟩ <;> simp [Path.atBareTest]

theorem readBareTest_eq (c : Cursor ts) :
    c.readBareTest.map withLeft = Path.readBareTest (stopOffset ts) c.left := by
  refine bind_withLeft (consume_eq c _) fun name c => ?_
  refine bind_withLeft (readComparison_eq c) fun op c => ?_
  exact bind_withLeft (readBareValue_eq c) fun value c => rfl

theorem readAttributeTest_eq (c : Cursor ts) :
    c.readAttributeTest.map withLeft = Path.readAttributeTest (stopOffset ts) c.left := by
  refine bind_withLeft (consume_eq c _) fun name c => ?_
  refine bind_withLeft (readComparison_eq c) fun op c => ?_
  exact bind_withLeft (consume_eq c _) fun value c => rfl

theorem readPosition_eq {h : c.isAtEnd = false} (ht : c.current? = some t) (hkind : t.kind = .tag) :
    c.readPosition = match leadingNumber? t.text with
      | some n => .ok (.position n, c.next h)
      | none => .error (.notACondition c.offset c.describe) := by
  rw [readPosition, consume, match?_of_current (h := h) ht, if_pos hkind]
  rfl

theorem map_some_withLeft (x : Except ParseError (Condition × Cursor ts)) :
    (x.map fun (condition, c) => (some condition, c)).map withLeft =
      (x.map withLeft).map fun (condition, rest) => (some condition, rest) := by
  cases x <;> rfl

theorem readCondition_eq {h : c.isAtEnd = false} (ht : c.current? = some t)
    (hleft : c.left = t :: (c.next h).left) :
    c.readCondition.map withLeft = Path.readCondition (stopOffset ts) t (c.next h).left := by
  have hfound : c.describe = foundAt [t] := by rw [describe_eq, hleft, foundAt, foundAt]
  have hword : c.atConnective = isConnective t := by simp [atConnective, isConnective, check, h, ht]
  rw [readCondition, Path.readCondition, atBareTest_eq, hleft]
  by_cases bare : Path.atBareTest (t :: (c.next h).left)
  · rw [if_pos bare, if_pos bare, map_some_withLeft, readBareTest_eq, hleft]
    cases Path.readBareTest (stopOffset ts) (t :: (c.next h).left) <;> rfl
  · rw [if_neg bare, if_neg bare, match?_of_current (h := h) ht]
    by_cases sign : t.kind = .atSign
    · rw [if_pos sign, if_pos sign]
      dsimp only
      rw [map_some_withLeft, readAttributeTest_eq]
      cases Path.readAttributeTest (stopOffset ts) (c.next h).left <;> rfl
    · rw [if_neg sign, if_neg sign, ht, Option.any_some]
      dsimp only
      by_cases numeric : t.isNumeric
      · have hkind : t.kind = .tag := by simp_all [Token.isNumeric]
        rw [if_pos numeric, if_pos numeric, readPosition_eq (h := h) ht hkind, offset_of_current ht, hfound]
        cases leadingNumber? t.text <;> rfl
      · rw [if_neg numeric, if_neg numeric]
        by_cases word : isConnective t
        · rw [dif_pos (hword.trans word), if_pos word]
          rfl
        · rw [dif_neg (by rwa [hword]), if_neg word, offset_of_current ht, hfound]
          rfl

theorem kind_ne_closeBracket {rest : List Token} (h : c.check .closeBracket = false)
    (hleft : c.left = t :: rest) : t.kind ≠ .closeBracket := by
  rw [check_eq, hleft, List.head?_cons, Option.any_some] at h
  exact beq_eq_false_iff_ne.1 h

theorem readConditions_eq (c : Cursor ts) :
    c.readConditions.map withLeft = Path.readConditions (stopOffset ts) c.left := by
  fun_induction readConditions c with
  | case1 c hgo e failed =>
    obtain ⟨t, ht, -, hleft⟩ := exists_left hgo.2
    rw [hleft, readConditions_cons (kind_ne_closeBracket hgo.1 hleft), ← readCondition_eq ht hleft, failed]
    rfl
  | case2 c hgo condition d heard ih =>
    obtain ⟨t, ht, -, hleft⟩ := exists_left hgo.2
    rw [hleft, readConditions_cons (kind_ne_closeBracket hgo.1 hleft), ← readCondition_eq ht hleft, heard]
    simp only [Except.map, withLeft, ← ih]
    cases d.readConditions <;> rfl
  | case3 c hstop =>
    rcases c.place with ⟨-, hleft⟩ | ⟨t, hend, -, -, hleft⟩
    · rw [Except.map, withLeft, hleft, Path.readConditions]
    · have hk : t.kind = .closeBracket := by simpa [check_eq, hleft, hend] using hstop
      rw [Except.map, withLeft, hleft, Path.readConditions, if_pos hk]

end Conditions

section Steps

variable {ts : List Token} {c : Cursor ts} {t : Token}

theorem readAxis_eq (c : Cursor ts) : withLeft c.readAxis = Path.readAxis c.left := by
  rw [readAxis, Path.readAxis, ← match?_eq]
  cases c.match? .axis <;> rfl

theorem readNodeTest_eq (c : Cursor ts) :
    c.readNodeTest.map withLeft = Path.readNodeTest (stopOffset ts) c.left := by
  rw [readNodeTest, Path.readNodeTest, ← match?_eq, ← match?_eq, offset_eq, describe_eq]
  cases c.match? .wildcard with
  | some found => rfl
  | none => cases c.match? .tag <;> rfl

theorem readBrackets_eq (c : Cursor ts) :
    c.readBrackets.map withLeft = Path.readBrackets (stopOffset ts) c.left := by
  rw [readBrackets, Path.readBrackets, ← match?_eq]
  cases c.match? .openBracket with
  | none => rfl
  | some opened =>
    simp only [Option.map_some, withLeft, ← readConditions_eq]
    cases opened.2.readConditions with
    | error e => rfl
    | ok found =>
      simp only [bind, Except.bind, Except.map, withLeft, ← match?_eq, offset_eq, describe_eq]
      cases found.2.match? .closeBracket <;> rfl

theorem readNamespace_eq (c : Cursor ts) (tag : String) :
    withLeft (c.readNamespace tag) = Path.readNamespace tag c.left := by
  rw [readNamespace, Path.readNamespace, ← match?_eq]
  cases c.match? .namespaceName <;> rfl

theorem readStep_eq (c : Cursor ts) (absolute : Bool) :
    (c.readStep absolute).map withLeft = Path.readStep (stopOffset ts) absolute c.left := by
  rw [readStep, Path.readStep, ← readAxis_eq]
  simp only [withLeft, ← readNodeTest_eq]
  cases c.readAxis.2.readNodeTest with
  | error e => rfl
  | ok test =>
    simp only [bind, Except.bind, Except.map, withLeft, ← readBrackets_eq]
    cases test.2.readBrackets with
    | error e => rfl
    | ok brackets =>
      simp only [withLeft, ← readNamespace_eq]
      rfl

theorem opening_eq {h : c.isAtEnd = false} (ht : c.current? = some t)
    (hleft : c.left = t :: (c.next h).left) : c.opening.map left = Path.opening t (c.next h).left := by
  rw [opening, Path.opening, match?_of_current (h := h) ht]
  by_cases slash : t.kind = .slash
  · rw [if_pos slash, if_pos slash, ← match?_eq]
    dsimp only
    split_ifs
    · rfl
    · cases (c.next h).match? .slash <;> rfl
  · rw [if_neg slash, if_neg slash, ← hleft]
    rfl

theorem readSteps_eq (c : Cursor ts) : c.readSteps = Path.readSteps (stopOffset ts) c.left := by
  fun_induction readSteps c with
  | case1 c hgo d opened ih =>
    obtain ⟨t, ht, -, hleft⟩ := exists_left hgo
    rw [hleft, readSteps_cons, ← opening_eq ht hleft, opened, ih]
    rfl
  | case2 c hgo absolute d opened e failed =>
    obtain ⟨t, ht, -, hleft⟩ := exists_left hgo
    rw [hleft, readSteps_cons, ← opening_eq ht hleft, opened]
    simp only [Opening.map, ← readStep_eq, failed]
    rfl
  | case3 c hgo absolute d opened s d' heard ih =>
    obtain ⟨t, ht, -, hleft⟩ := exists_left hgo
    rw [hleft, readSteps_cons, ← opening_eq ht hleft, opened]
    simp only [Opening.map, ← readStep_eq, heard, ih]
    rfl
  | case4 c hend => rw [left_of_isAtEnd (by simpa using hend), Path.readSteps]

end Steps

end Cursor

theorem parse_eq (ts : List Token) : parse ts = readSteps (stopOffset ts) (body ts) :=
  (Cursor.start ts).readSteps_eq

theorem parsePredicate_eq (ts : List Token) :
    parsePredicate ts = (readConditions (stopOffset ts) (body ts)).map (·.1) := by
  have hread := (Cursor.start ts).readConditions_eq
  rw [show (Cursor.start ts).left = body ts from rfl] at hread
  rw [parsePredicate, ← hread]
  cases (Cursor.start ts).readConditions <;> rfl

end WidgetLocator.Path
