import Mathlib.Data.List.ReduceOption
import WidgetLocator.Proofs.Path.Segment

/-! The plain form on all paths. No two segments are printed alike, so a piece of a path spells one
segment or none, and the reader keeps a piece just when it spells one. What else a piece may hold does
not matter: empty pieces, wildcards, values without quotes or cut by a slash are all left out. -/

namespace WidgetLocator.Path.Segment

open Text

/-- What a piece of a path spells: one segment and no other, or none at all. -/
def Denotes (piece : List Char) : Option Segment → Prop
  | some s => s.text = piece ∧ ∀ r : Segment, r.text = piece → r = s
  | none => ∀ s : Segment, s.text ≠ piece

section Pieces

variable {absolute : Bool} {cs : List Char} {found : Step}

/-- The reader finds the end of each part again, so the text settles the parts. -/
theorem text_injective : Function.Injective text := by
  intro s r h
  have hrun : some (s.tag.1, s.brackets) = some (r.tag.1, r.brackets) := by
    rw [← run?_text, ← run?_text, h]
  obtain ⟨htag, hbrackets⟩ := Prod.mk.inj (Option.some.inj hrun)
  have htests := congrArg bracketedTest? hbrackets
  obtain ⟨tag, test, position⟩ := s
  obtain ⟨tag', test', position'⟩ := r
  obtain rfl : tag = tag' := Subtype.ext htag
  simp only [brackets, bracketedTest?_brackets] at htests hbrackets
  have htest : test = test' := by
    cases test <;> cases test' <;> simp_all [Prod.ext_iff, Subtype.ext_iff]
  subst htest
  have hdigits := congrArg bracketedDigits? (List.append_cancel_left hbrackets)
  rw [bracketedDigits?_brackets, bracketedDigits?_brackets] at hdigits
  have hposition : position = position' := by
    cases position <;> cases position' <;> simp_all [Subtype.ext_iff]
  rw [hposition]

theorem exists_position (h : (match bracketedDigits? cs with
    | some (digits, rest) => ([Condition.position (ordinal digits)], rest)
    | none => ([], cs)).2.isEmpty) : ∃ position : Option (Run isDigit), cs = position.elim [] positionText := by
  cases hdigits : bracketedDigits? cs with
  | none =>
    rw [hdigits] at h
    exact ⟨none, List.isEmpty_iff.1 h⟩
  | some r =>
    obtain ⟨digits, rest⟩ := r
    obtain ⟨d, -, rfl⟩ := bracketedDigits?_eq_some_iff.1 hdigits
    rw [hdigits] at h
    obtain rfl : rest = [] := List.isEmpty_iff.1 h
    exact ⟨some d, List.append_nil _⟩

theorem exists_text (h : segment? absolute cs = some found) : ∃ s : Segment, s.text = cs := by
  obtain ⟨⟨tag, rest⟩, hrun, h⟩ := Option.bind_eq_some_iff.1 h
  dsimp only [Option.bind_eq_bind] at h
  rw [guard_bind, Option.ite_none_right_eq_some] at h
  obtain ⟨hempty, -⟩ := h
  obtain ⟨rfl, hne, hword, -⟩ := run?_eq_some_iff.1 hrun
  cases htest : bracketedTest? rest with
  | none =>
    simp only [htest] at hempty
    obtain ⟨position, rfl⟩ := exists_position hempty
    exact ⟨⟨⟨tag, hne, hword⟩, none, position⟩, rfl⟩
  | some r =>
    obtain ⟨⟨key, value⟩, rest⟩ := r
    obtain ⟨t, -, -, rfl⟩ := bracketedTest?_eq_some_iff.1 htest
    simp only [htest] at hempty
    obtain ⟨position, rfl⟩ := exists_position hempty
    exact ⟨⟨⟨tag, hne, hword⟩, some t, position⟩, rfl⟩

theorem exists_denoted (absolute : Bool) (piece : List Char) :
    ∃ s? : Option Segment, Denotes piece s? ∧ segment? absolute piece = s?.map (·.step absolute) := by
  cases h : segment? absolute piece with
  | none =>
    refine ⟨none, ?_, rfl⟩
    rintro s rfl
    rw [segment?_text] at h
    cases h
  | some found =>
    obtain ⟨s, rfl⟩ := exists_text h
    rw [segment?_text] at h
    exact ⟨some s, ⟨rfl, fun r hr => text_injective hr⟩, h.symm⟩

theorem exists_all_denoted (absolute : Bool) (pieces : List (List Char)) :
    ∃ found : List (Option Segment), List.Forall₂ Denotes pieces found ∧
      pieces.filterMap (segment? absolute) = found.reduceOption.map (·.step absolute) := by
  induction pieces with
  | nil => exact ⟨[], .nil, rfl⟩
  | cons piece pieces ih =>
    obtain ⟨s?, hpiece, hread⟩ := exists_denoted absolute piece
    obtain ⟨found, hpieces, hreads⟩ := ih
    refine ⟨s? :: found, .cons hpiece hpieces, ?_⟩
    rw [List.filterMap_cons, hread, hreads]
    cases s? <;> simp

end Pieces

/-- A path without its first slash is cut at every other one. The steps are those of the segments that
its pieces denote, in their order, absolute or not as the path is, and pieces that denote no segment
leave no trace. -/
theorem segments_eq_denoted (path : String) :
    ∃ (absolute : Bool) (rest : List Char) (found : List (Option Segment)),
      path.toList = (if absolute then ['/'] else []) ++ rest ∧
        (absolute = false → rest.head? ≠ some '/') ∧
        List.Forall₂ Denotes (rest.splitOn '/') found ∧
        segments path = found.reduceOption.map (·.step absolute) := by
  by_cases hslash : path.toList.head? = some '/'
  · obtain ⟨rest, hpath⟩ := List.head?_eq_some_iff.1 hslash
    obtain ⟨found, hpieces, hread⟩ := exists_all_denoted true (rest.splitOn '/')
    refine ⟨true, rest, found, hpath, nofun, hpieces, ?_⟩
    rw [segments, hpath, ← hread]
    rfl
  · obtain ⟨found, hpieces, hread⟩ := exists_all_denoted false (path.toList.splitOn '/')
    refine ⟨false, path.toList, found, rfl, fun _ => hslash, hpieces, ?_⟩
    have habsolute : (path.toList.head? == some '/') = false := by simpa using hslash
    simp only [segments, habsolute]
    exact hread

/-- Digits that are not ASCII stand for the first place. -/
example : segments "/form/*//b[1][@k='v']/c[@k='x/y']/d[@k=v]/e[@k=']['][٣]" =
    [⟨"child", "form", none, true⟩, ⟨"child", "e", some [.test ⟨"k", .eq, "]["⟩, .position 1], true⟩] := by
  decide +kernel

end WidgetLocator.Path.Segment
