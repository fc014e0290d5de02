import Mathlib.Data.List.TakeWhile
import WidgetLocator.Path.Segments
import WidgetLocator.Proofs.Text.Line

/-! Segments in print. A segment is what a piece of the plain form spells: a word, possibly a test,
possibly a position. The reader of pieces gives back every segment that is printed, and where no
segment holds a slash of its own the pieces of a path are its segments. -/

namespace WidgetLocator.Path

open Text

/-- Characters of a class, and at least one of them. -/
abbrev Run (p : Char → Bool) := { w : List Char // w ≠ [] ∧ ∀ c ∈ w, p c }

def Run.of {p : Char → Bool} (w : List Char) (h : w ≠ [] ∧ w.all p) : Run p :=
  ⟨w, h.1, List.all_eq_true.1 h.2⟩

structure Segment where
  tag : Run isWord
  test : Option (Run isWord × Run (· != '\''))
  position : Option (Run isDigit)

namespace Segment

section Print

def testText (t : Run isWord × Run (· != '\'')) : List Char :=
  ['[', '@'] ++ (t.1.1 ++ (['=', '\''] ++ (t.2.1 ++ ['\'', ']'])))

def positionText (d : Run isDigit) : List Char := ['['] ++ (d.1 ++ [']'])

def text (s : Segment) : List Char :=
  s.tag.1 ++ (s.test.elim [] testText ++ s.position.elim [] positionText)

/-- The segments with slashes between them, and possibly one in front. -/
def path (absolute : Bool) (ss : List Segment) : String :=
  String.ofList ((if absolute then ['/'] else []) ++ ['/'].intercalate (ss.map text))

end Print

section Meaning

def condition (t : Run isWord × Run (· != '\'')) : Condition :=
  .test ⟨String.ofList t.1.1, .eq, String.ofList t.2.1⟩

/-- The place that the digits stand for, the first one if they are no ASCII digits or too many. -/
def place (d : Run isDigit) : Nat :=
  if d.1.all Char.isDigit ∧ decimalValue d.1 < wordLimit then decimalValue d.1 else 1

/-- The test comes before the position. -/
def conditions (s : Segment) : List Condition :=
  (s.test.map condition).toList ++ (s.position.map fun d => .position (place d)).toList

def step (s : Segment) (absolute : Bool) : Step where
  axis := "child"
  tag := String.ofList s.tag.1
  predicate := if s.conditions.isEmpty then none else some s.conditions
  absolute := absolute

end Meaning

end Segment

section Readers

variable {p : Char → Bool} {w cs rest : List Char}

theorem afterText?_eq_some_iff : afterText? w cs = some rest ↔ cs = w ++ rest := by
  fun_induction afterText? w cs with
  | case1 cs => simp
  | case2 => simp
  | case3 w word cs ih => simp [ih]
  | case4 w word c cs hne => simp [Ne.symm hne]

theorem run?_eq_some_iff {found : List Char} : run? p cs = some (found, rest) ↔
    cs = found ++ rest ∧ found ≠ [] ∧ (∀ c ∈ found, p c) ∧ ∀ c ∈ rest.head?, p c = false := by
  simp only [run?, Option.ite_none_left_eq_some, List.isEmpty_iff, Option.some.injEq, Prod.mk.injEq]
  constructor
  · rintro ⟨hne, rfl, rfl⟩
    refine ⟨List.takeWhile_append_dropWhile.symm, hne, List.all_eq_true.1 List.all_takeWhile, ?_⟩
    intro c hc
    have hstop := List.head?_dropWhile_not p cs
    rwa [hc] at hstop
  · rintro ⟨rfl, hne, hall, hnext⟩
    have htake : rest.takeWhile p = [] ∧ rest.dropWhile p = rest := by
      cases rest with
      | nil => exact ⟨rfl, rfl⟩
      | cons c rest => simp [hnext c rfl]
    rw [List.takeWhile_append_of_pos hall, List.dropWhile_append_of_pos hall, htake.1, htake.2,
      List.append_nil]
    exact ⟨hne, rfl, rfl⟩

theorem bracketedTest?_eq_some_iff {key value : List Char} :
    bracketedTest? cs = some ((key, value), rest) ↔ ∃ t : Run isWord × Run (· != '\''),
      t.1.1 = key ∧ t.2.1 = value ∧ cs = Segment.testText t ++ rest := by
  simp only [bracketedTest?, bind, Option.bind_eq_some_iff, afterText?_eq_some_iff, Prod.exists,
    run?_eq_some_iff, pure, Option.some.injEq, Prod.mk.injEq]
  constructor
  · rintro ⟨_, rfl, key, _, ⟨rfl, hkey, hword, -⟩, _, rfl, value, _, ⟨rfl, hvalue, hquote, -⟩, _,
      rfl, ⟨rfl, rfl⟩, rfl⟩
    exact ⟨⟨key, hkey, hword⟩, ⟨value, hvalue, hquote⟩, rfl, rfl, by simp [Segment.testText]⟩
  · rintro ⟨⟨key, hkey, hword⟩, ⟨value, hvalue, hquote⟩, rfl, rfl, rfl⟩
    have hequals : isWord '=' = false := by decide
    have htext : Segment.testText (⟨key, hkey, hword⟩, ⟨value, hvalue, hquote⟩) ++ rest =
        ['[', '@'] ++ (key ++ (['=', '\''] ++ (value ++ ['\'', ']'] ++ rest))) := by
      simp [Segment.testText]
    rw [htext]
    exact ⟨_, rfl, key, _, ⟨rfl, hkey, hword, by simp [hequals]⟩, _, rfl, value, _,
      ⟨List.append_assoc _ _ _, hvalue, hquote, by simp⟩, rest, rfl, ⟨rfl, rfl⟩, rfl⟩

theorem bracketedDigits?_eq_some_iff {digits : List Char} :
    bracketedDigits? cs = some (digits, rest) ↔ ∃ d : Run isDigit,
      d.1 = digits ∧ cs = Segment.positionText d ++ rest := by
  simp only [bracketedDigits?, bind, Option.bind_eq_some_iff, afterText?_eq_some_iff, Prod.exists,
    run?_eq_some_iff, pure, Option.some.injEq, Prod.mk.injEq]
  constructor
  · rintro ⟨_, rfl, digits, _, ⟨rfl, hne, hdigits, -⟩, _, rfl, rfl, rfl⟩
    exact ⟨⟨digits, hne, hdigits⟩, rfl, by simp [Segment.positionText]⟩
  · rintro ⟨⟨digits, hne, hdigits⟩, rfl, rfl⟩
    have hclose : isDigit ']' = false := by decide
    exact ⟨_, rfl, digits, ']' :: rest, ⟨by simp, hne, hdigits, by simp [hclose]⟩, rest, rfl, rfl, rfl⟩

end Readers

namespace Segment

section Reading

theorem bracketedTest?_brackets (test : Option (Run isWord × Run (· != '\'')))
    (position : Option (Run isDigit)) :
    bracketedTest? (test.elim [] testText ++ position.elim [] positionText) =
      test.map fun t => ((t.1.1, t.2.1), position.elim [] positionText) := by
  cases test with
  | some t => exact bracketedTest?_eq_some_iff.2 ⟨t, rfl, rfl, rfl⟩
  | none =>
    refine Option.eq_none_iff_forall_ne_some.2 fun ⟨⟨key, value⟩, rest⟩ h => ?_
    obtain ⟨t, -, -, htext⟩ := bracketedTest?_eq_some_iff.1 h
    cases position with
    | none => cases htext
    | some d =>
      obtain ⟨w, hne, hdigits⟩ := d
      obtain ⟨c, v, rfl⟩ := List.exists_cons_of_ne_nil hne
      obtain ⟨rfl, -⟩ := List.cons.inj (List.cons.inj htext).2
      exact absurd (hdigits '@' List.mem_cons_self) (by decide)

theorem bracketedDigits?_brackets (position : Option (Run isDigit)) :
    bracketedDigits? (position.elim [] positionText) = position.map fun d => (d.1, []) := by
  cases position with
  | none => rfl
  | some d => exact bracketedDigits?_eq_some_iff.2 ⟨d, rfl, (List.append_nil _).symm⟩

theorem ordinal_eq_place (d : Run isDigit) : ordinal d.1 = place d := by
  simp only [ordinal, place, storedNumber?]
  split_ifs <;> simp_all

theorem guard_bind {α : Type} {p : Prop} [Decidable p] (k : Unit → Option α) :
    (guard p : Option Unit).bind k = if p then k () else none := by
  by_cases h : p
  · rw [if_pos h]
    exact congrArg (Option.bind · k) (if_pos h)
  · rw [if_neg h]
    exact congrArg (Option.bind · k) (if_neg h)

def brackets (s : Segment) : List Char := s.test.elim [] testText ++ s.position.elim [] positionText

/-- A bracket is no part of the tag. -/
theorem run?_text (s : Segment) : run? isWord s.text = some (s.tag.1, s.brackets) := by
  obtain ⟨tag, test, position⟩ := s
  have hopen : isWord '[' = false := by decide
  refine run?_eq_some_iff.2 ⟨rfl, tag.2.1, tag.2.2, ?_⟩
  cases test <;> cases position <;> simp [brackets, testText, positionText, hopen]

theorem segment?_text (absolute : Bool) (s : Segment) :
    segment? absolute s.text = some (s.step absolute) := by
  have htag := s.run?_text
  obtain ⟨tag, test, position⟩ := s
  have hdigits := bracketedDigits?_brackets position
  rw [segment?, htag]
  dsimp only [Option.bind_eq_bind, Option.bind_some]
  rw [guard_bind, brackets, bracketedTest?_brackets]
  cases test <;> cases position <;> simp only [Option.elim, Option.map] at hdigits ⊢ <;>
    simp [hdigits, step, conditions, condition, ordinal_eq_place, Step.defaultAxis]

theorem exists_text_head (s : Segment) : ∃ c v, s.text = c :: v ∧ isWord c := by
  obtain ⟨c, v, htag⟩ := List.exists_cons_of_ne_nil s.tag.2.1
  exact ⟨c, _, by rw [text, htag, List.cons_append], s.tag.2.2 c (by simp [htag])⟩

/-- Without slashes inside them the segments are the pieces of their path. -/
theorem segments_path (absolute : Bool) {ss : List Segment} (hne : ss ≠ [])
    (hss : ∀ s ∈ ss, '/' ∉ s.text) : segments (path absolute ss) = ss.map (·.step absolute) := by
  have hpieces : (['/'].intercalate (ss.map text)).splitOn '/' = ss.map text := by
    rw [List.splitOn_intercalate '/' (by simpa using hss) (by simpa using hne)]
  have hsteps : (ss.map text).filterMap (segment? absolute) = ss.map (·.step absolute) := by
    rw [List.filterMap_map, ← List.filterMap_eq_map]
    exact congrArg (List.filterMap · ss) (funext (segment?_text absolute))
  -- a path without a slash in front does not begin with one by chance
  have hfirst : ((['/'].intercalate (ss.map text)).head? == some '/') = false := by
    rw [beq_eq_false_iff_ne]
    obtain ⟨s, ss, rfl⟩ := List.exists_cons_of_ne_nil hne
    obtain ⟨c, v, htext, hc⟩ := s.exists_text_head
    rw [List.map_cons, htext, List.intercalate_cons_cons_left, List.head?_cons]
    rintro ⟨⟩
    exact absurd hc (by decide)
  cases absolute with
  | true => simp [segments, path, hpieces, -List.filterMap_map, hsteps]
  | false => simp [segments, path, hfirst, hpieces, -List.filterMap_map, hsteps]

end Reading

end Segment

end WidgetLocator.Path
