import WidgetLocator.Proofs.Path.Parsing
import WidgetLocator.Proofs.Token.Adjacent

/-! Reading does not depend on where tokens stand. Every reader looks at kinds and texts only, and an
offset comes up again only in an error, as it was found. So tokens at other offsets are read as the
same steps or with the same error at the other offset. -/

namespace WidgetLocator

def ParseError.move (f : Nat → Nat) : ParseError → ParseError
  | noNodeTest offset found => noNodeTest (f offset) found
  | noClosingBracket offset found => noClosingBracket (f offset) found
  | notACondition offset found => notACondition (f offset) found
  | unexpected expected offset found => unexpected expected (f offset) found

section

variable {f : Nat → Nat} {e : ParseError}

theorem ParseError.offset_move : (e.move f).offset = f e.offset := by
  cases e <;> rfl

theorem ParseError.move_move {g : Nat → Nat} : (e.move f).move g = e.move (g ∘ f) := by
  cases e <;> rfl

/-- Only what becomes of its own offset matters to an error. -/
theorem ParseError.move_congr {g : Nat → Nat} (h : f e.offset = g e.offset) : e.move f = e.move g := by
  unfold offset at h
  cases e <;> simp only [move, h]

end

namespace Path

section

variable {α β : Type} (f : Nat → Nat)

/-- What a reader gives for tokens at other offsets, if `g` says what becomes of its result. -/
def moved (g : α → α) : Except ParseError (α × List Token) → Except ParseError (α × List Token)
  | .error e => .error (e.move f)
  | .ok (a, rest) => .ok (g a, rest.map (Token.move f))

theorem bind_moved {g : α → α} {h : β → β} (x : Except ParseError (α × List Token))
    {k k' : α × List Token → Except ParseError (β × List Token)}
    (hk : ∀ a rest, k' (g a, rest.map (Token.move f)) = moved f h (k (a, rest))) :
    moved f g x >>= k' = moved f h (x >>= k) := by
  cases x with
  | error e => rfl
  | ok r => exact hk r.1 r.2

end

section Readers

variable (f : Nat → Nat) (stop : Nat) (ts : List Token)

theorem offsetAt_move : offsetAt (f stop) (ts.map (Token.move f)) = f (offsetAt stop ts) := by
  cases ts <;> rfl

theorem foundAt_move : foundAt (ts.map (Token.move f)) = foundAt ts := by
  cases ts <;> rfl

theorem take?_move (k : Token.Kind) : take? k (ts.map (Token.move f)) =
    (take? k ts).map fun (t, rest) => (t.move f, rest.map (Token.move f)) := by
  cases ts with
  | nil => rfl
  | cons t ts =>
    by_cases hk : t.kind = k
    · simp [take?, Token.move, hk]
    · simp [take?, Token.move, hk]

theorem expect_move (k : Token.Kind) (expected : Expected) :
    expect (f stop) k expected (ts.map (Token.move f)) =
      moved f (Token.move f) (expect stop k expected ts) := by
  rw [expect, take?_move, offsetAt_move, foundAt_move, expect]
  cases take? k ts <;> rfl

theorem readComparison_move : readComparison (f stop) (ts.map (Token.move f)) =
    moved f id (readComparison stop ts) := by
  rw [readComparison, expect_move, readComparison]
  cases expect stop .operator .comparison ts with
  | error e => rfl
  | ok r =>
    obtain ⟨t, rest⟩ := r
    simp only [moved, Token.move]
    cases Comparison.ofSymbol? t.text <;> rfl

theorem readBareValue_move : readBareValue (f stop) (ts.map (Token.move f)) =
    moved f (Token.move f) (readBareValue stop ts) := by
  rw [readBareValue, take?_move, expect_move, readBareValue]
  cases take? .literal ts <;> rfl

theorem atBareTest_move : atBareTest (ts.map (Token.move f)) = atBareTest ts := by
  rcases ts with _ | ⟨t, _ | ⟨u, _ | ⟨v, ts⟩⟩⟩ <;> rfl

theorem readBareTest_move : readBareTest (f stop) (ts.map (Token.move f)) =
    moved f id (readBareTest stop ts) := by
  rw [readBareTest, expect_move, readBareTest]
  refine bind_moved f _ fun name ts => ?_
  simp only
  rw [readComparison_move]
  refine bind_moved f _ fun op ts => ?_
  simp only
  rw [readBareValue_move]
  exact bind_moved f _ fun value ts => rfl

theorem readAttributeTest_move : readAttributeTest (f stop) (ts.map (Token.move f)) =
    moved f id (readAttributeTest stop ts) := by
  rw [readAttributeTest, expect_move, readAttributeTest]
  refine bind_moved f _ fun name ts => ?_
  simp only
  rw [readComparison_move]
  refine bind_moved f _ fun op ts => ?_
  simp only
  rw [expect_move]
  exact bind_moved f _ fun value ts => rfl

theorem readCondition_move (t : Token) : readCondition (f stop) (t.move f) (ts.map (Token.move f)) =
    moved f id (readCondition stop t ts) := by
  have hbare := atBareTest_move f (t :: ts)
  have hread := readBareTest_move f stop (t :: ts)
  rw [List.map_cons] at hbare hread
  have hnumeric : (t.move f).isNumeric = t.isNumeric := rfl
  have hword : isConnective (t.move f) = isConnective t := rfl
  simp only [readCondition, hbare, hread, readAttributeTest_move, hnumeric, hword, Token.kind_move,
    Token.text_move]
  split_ifs with bare sign numeric word
  · cases readBareTest stop (t :: ts) <;> rfl
  · cases readAttributeTest stop ts <;> rfl
  · cases leadingNumber? t.text <;> rfl
  · rfl
  · rfl

theorem readConditions_move : readConditions (f stop) (ts.map (Token.move f)) =
    moved f id (readConditions stop ts) := by
  fun_induction readConditions stop ts with
  | case1 => rw [List.map_nil, readConditions]; rfl
  | case2 t ts hk => rw [List.map_cons, readConditions, Token.kind_move, if_pos hk]; rfl
  | case3 t ts hk e failed =>
    rw [List.map_cons, readConditions_cons (by simpa using hk), readCondition_move, failed]
    rfl
  | case4 t ts hk c rest heard e failed ih =>
    rw [List.map_cons, readConditions_cons (by simpa using hk), readCondition_move, heard]
    simp only [moved, ih, failed]
    rfl
  | case5 t ts hk c rest heard cs rest' heard' ih =>
    rw [List.map_cons, readConditions_cons (by simpa using hk), readCondition_move, heard]
    simp only [moved, ih, heard']
    rfl

theorem readAxis_move :
    readAxis (ts.map (Token.move f)) = ((readAxis ts).1, (readAxis ts).2.map (Token.move f)) := by
  rw [readAxis, take?_move, readAxis]
  cases take? .axis ts <;> rfl

theorem readNodeTest_move : readNodeTest (f stop) (ts.map (Token.move f)) =
    moved f id (readNodeTest stop ts) := by
  rw [readNodeTest, take?_move, take?_move, offsetAt_move, foundAt_move, readNodeTest]
  cases take? .wildcard ts with
  | some r => rfl
  | none => cases take? .tag ts <;> rfl

theorem readBrackets_move : readBrackets (f stop) (ts.map (Token.move f)) =
    moved f id (readBrackets stop ts) := by
  rw [readBrackets, take?_move, readBrackets]
  cases take? .openBracket ts with
  | none => rfl
  | some r =>
    simp only [Option.map_some, readConditions_move]
    cases readConditions stop r.2 with
    | error e => rfl
    | ok r =>
      simp only [moved, take?_move, offsetAt_move, foundAt_move]
      cases take? .closeBracket r.2 <;> rfl

theorem readNamespace_move (tag : String) : readNamespace tag (ts.map (Token.move f)) =
    ((readNamespace tag ts).1, (readNamespace tag ts).2.map (Token.move f)) := by
  rw [readNamespace, take?_move, readNamespace]
  cases take? .namespaceName ts <;> rfl

theorem readStep_move (absolute : Bool) : readStep (f stop) absolute (ts.map (Token.move f)) =
    moved f id (readStep stop absolute ts) := by
  simp only [readStep, readAxis_move, readNodeTest_move]
  cases readNodeTest stop (readAxis ts).2 with
  | error e => rfl
  | ok r =>
    simp only [moved, readBrackets_move]
    cases readBrackets stop r.2 with
    | error e => rfl
    | ok r => simp only [readNamespace_move, id]

theorem opening_move (t : Token) : opening (t.move f) (ts.map (Token.move f)) =
    (opening t ts).map (List.map (Token.move f)) := by
  have hdouble : (t.move f).isDescendant = t.isDescendant := rfl
  simp only [opening, hdouble, Token.kind_move, take?_move]
  split_ifs with slash double
  · rfl
  · cases take? .slash ts <;> rfl
  · rfl

theorem readSteps_move : readSteps (f stop) (ts.map (Token.move f)) =
    (readSteps stop ts).mapError (ParseError.move f) := by
  fun_induction readSteps stop ts with
  | case1 => rw [List.map_nil, readSteps]; rfl
  | case2 t ts rest opened e failed ih =>
    simp only [List.map_cons, readSteps_cons, opening_move, opened, Opening.map, ih, failed]
    rfl
  | case3 t ts rest opened ss heard ih =>
    simp only [List.map_cons, readSteps_cons, opening_move, opened, Opening.map, ih, heard]
    rfl
  | case4 t ts absolute ts' opened e failed =>
    simp only [List.map_cons, readSteps_cons, opening_move, opened, Opening.map, readStep_move, failed]
    rfl
  | case5 t ts absolute ts' opened s rest heard e failed ih =>
    simp only [List.map_cons, readSteps_cons, opening_move, opened, Opening.map, readStep_move, heard,
      moved, ih, failed]
    rfl
  | case6 t ts absolute ts' opened s rest heard ss heard' ih =>
    simp only [List.map_cons, readSteps_cons, opening_move, opened, Opening.map, readStep_move, heard,
      moved, ih, heard']
    rfl

end Readers
end Path
end WidgetLocator
