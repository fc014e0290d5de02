import WidgetLocator.Proofs.Path.ErrorPlace

/-! The end marker. A cursor stays before the first one, and it never looks past it for the tokens ahead.
Those after it do not matter, whatever they are, and neither does the marker as long as the reading
succeeds: its offset comes up in errors alone. -/

namespace WidgetLocator.Path

open Token

section Marked

variable {stop stop' : Nat} {ts us : List Token} {e : Token}

theorem body_eq_self (hts : ∀ t ∈ ts, t.kind ≠ .finish) : body ts = ts :=
  List.takeWhile_eq_self_iff.2 (by simpa using hts)

theorem parsePredicate_append (hts : ∀ t ∈ ts, t.kind ≠ .finish) (he : e.kind = .finish) :
    parsePredicate (ts ++ e :: us) = (readConditions e.offset ts).map (·.1) := by
  rw [parsePredicate_eq, body_append hts he, stopOffset_append hts he]

theorem readConditions_ok_iff {cs : List Condition} : (readConditions stop ts).map (·.1) = .ok cs ↔
    (readConditions stop' ts).map (·.1) = .ok cs := by
  -- at the same offsets everywhere the stop offset is the same, too
  have hmoved (stop : Nat) : ((readConditions stop ts).map (·.1)).mapError (ParseError.move fun _ => 0) =
      (readConditions 0 (ts.map (Token.move fun _ => 0))).map (·.1) := by
    rw [readConditions_move (fun _ => 0) stop ts]
    cases readConditions stop ts <;> rfl
  exact eq_ok_iff_of_mapError ((hmoved stop).trans (hmoved stop').symm)

end Marked

/-- The first end marker ends the reading, of a path as well as of a predicate: any tokens can come
after it, and without it the result is the same, if there is one. -/
theorem reading_ends_at_marker {ts : List Token} {e : Token} (hts : ∀ t ∈ ts, t.kind ≠ .finish)
    (he : e.kind = .finish) (us vs : List Token) :
    parse (ts ++ [e] ++ us) = parse (ts ++ [e] ++ vs) ∧
      parsePredicate (ts ++ [e] ++ us) = parsePredicate (ts ++ [e] ++ vs) ∧
      (∀ ss, parse ts = .ok ss ↔ parse (ts ++ [e]) = .ok ss) ∧
      ∀ cs, parsePredicate ts = .ok cs ↔ parsePredicate (ts ++ [e]) = .ok cs := by
  simp only [List.append_assoc, List.singleton_append, parse_append hts he, parsePredicate_append hts he,
    true_and]
  refine ⟨fun ss => ?_, fun cs => ?_⟩
  · rw [parse_eq, body_eq_self hts]
    exact ⟨readSteps_ok_of_move rfl, readSteps_ok_of_move rfl⟩
  · rw [parsePredicate_eq, body_eq_self hts]
    exact readConditions_ok_iff

/-- The value of a bare test comes after the marker, so there is no test. -/
theorem reading_ends_at_marker_pending :
    parse ([⟨.tag, "k", 0⟩, ⟨.operator, "=", 1⟩] ++ [endAt 2] ++ [⟨.tag, "v", 2⟩]) =
        parse ([⟨.tag, "k", 0⟩, ⟨.operator, "=", 1⟩] ++ [endAt 2] ++ []) ∧
      parsePredicate ([⟨.tag, "k", 0⟩, ⟨.operator, "=", 1⟩] ++ [endAt 2] ++ [⟨.tag, "v", 2⟩]) =
        parsePredicate ([⟨.tag, "k", 0⟩, ⟨.operator, "=", 1⟩] ++ [endAt 2] ++ []) ∧
      parsePredicate ([⟨.tag, "k", 0⟩, ⟨.operator, "=", 1⟩] ++ [endAt 2] ++ [⟨.tag, "v", 2⟩]) =
        .error (.notACondition 0 "'k'") ∧
      parsePredicate [⟨.tag, "k", 0⟩, ⟨.operator, "=", 1⟩, ⟨.tag, "v", 2⟩] = .ok [.test ⟨"k", .eq, "v"⟩] := by
  have hends := @reading_ends_at_marker [⟨.tag, "k", 0⟩, ⟨.operator, "=", 1⟩] (endAt 2) (by decide) rfl
    [⟨.tag, "v", 2⟩] []
  exact ⟨hends.1, hends.2.1, by decide +kernel, by decide +kernel⟩

end WidgetLocator.Path
