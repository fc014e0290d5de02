import WidgetLocator.Path.Predicate
import WidgetLocator.Proofs.Token.Spelling

/-! Steps in print. A step is printed in full, with its axis and all its conditions as tests of
attributes or positions; what a source may leave out or write in another way is settled here. A
step is well-formed if its names can be read as names and its positions can be stored. -/

namespace WidgetLocator

open Text Token

namespace Path

def escape (cs : List Char) : List Char :=
  cs.flatMap fun c => if c = '\\' ∨ c = '\'' then ['\\', c] else [c]

def printCondition : Condition → List Char
  | .test t =>
    '@' :: (t.name.toList ++ (t.op.symbol.toList ++ ('\'' :: escape t.value.toList ++ ['\''])))
  | .position n => Nat.toDigits 10 n

def printPredicate (cs : List Condition) : List Char :=
  '[' :: ([' '].intercalate (cs.map printCondition) ++ [']'])

def printStep (s : Step) : List Char :=
  (if s.absolute then '/' else ' ') ::
    (s.axis.toList ++ [':', ':'] ++ (s.tag.toList ++ s.predicate.elim [] printPredicate))

def print (ss : List Step) : String := String.ofList (ss.flatMap printStep)

end Path

def Condition.WellFormed : Condition → Prop
  | test t => IsName t.name
  | position n => n < wordLimit

structure Step.WellFormed (s : Step) : Prop where
  axis : s.axis.toList ∈ axisRun
  tag : s.tag = "*" ∨ IsName s.tag
  conditions : ∀ c ∈ s.conditions, c.WellFormed

namespace Path

section Escapes

theorem escape_cons (c : Char) (cs : List Char) :
    escape (c :: cs) = (if c = '\\' ∨ c = '\'' then ['\\', c] else [c]) ++ escape cs := by
  simp [escape]

theorem unescape_cons {c : Char} (hc : c ≠ '\\') (cs : List Char) :
    unescape (c :: cs) = c :: unescape cs := by
  cases cs <;> simp [unescape, hc]

theorem unescape_escape (cs : List Char) : unescape (escape cs) = cs := by
  induction cs with
  | nil => rfl
  | cons c cs ih =>
    rw [escape_cons]
    by_cases hc : c = '\\' ∨ c = '\''
    · rw [if_pos hc, List.cons_append, List.singleton_append, unescape, ih]
    · rw [if_neg hc, List.singleton_append, unescape_cons (fun h => hc (.inl h)), ih]

theorem escape_eq_self {cs : List Char} (h : ∀ c ∈ cs, ¬ (c = '\\' ∨ c = '\'')) : escape cs = cs := by
  induction cs with
  | nil => rfl
  | cons c cs ih =>
    obtain ⟨hc, hcs⟩ := List.forall_mem_cons.1 h
    rw [escape_cons, if_neg hc, ih hcs, List.singleton_append]

theorem escape_mem_enclosed (cs : List Char) : escape cs ∈ enclosed '\'' := by
  induction cs with
  | nil => exact nil_mem_enclosed
  | cons c cs ih =>
    rw [escape_cons]
    by_cases hc : c = '\\' ∨ c = '\''
    · rw [if_pos hc]
      exact backslash_cons_mem_enclosed.2 ⟨c, _, rfl, ih⟩
    · rw [if_neg hc]
      exact (cons_mem_enclosed fun h => hc (.inl h)).2 ⟨fun h => hc (.inr h), ih⟩

end Escapes

section Digits

theorem isNameStart_of_isDigit {c : Char} (hc : c.isDigit) : isNameStart c := by
  have hne : ∀ d : Char, d.isDigit = false → c ≠ d := by
    rintro d hd rfl
    exact absurd hc (by simp [hd])
  simp (disch := decide) [isNameStart, isNameChar, isBlank, isSymbol, isQuote, hne]

theorem decimalValue_toDigits (n : Nat) : decimalValue (Nat.toDigits 10 n) = n := by
  rw [decimalValue, ← Nat.ofDigitChars_eq_foldl, Nat.ofDigitChars_ten_toDigits]

theorem isDigit_of_mem_toDigits {n : Nat} : ∀ c ∈ Nat.toDigits 10 n, c.isDigit :=
  fun _ hc => Nat.isDigit_of_mem_toDigits (by decide) (by decide) hc

theorem mem_nameRest_of_forall {w : List Char} (h : ∀ c ∈ w, isNameChar c) : w ∈ nameRest := by
  induction w with
  | nil => exact nil_mem_nameRest
  | cons c w ih =>
    obtain ⟨hc, hw⟩ := List.forall_mem_cons.1 h
    exact (nameChar_cons_mem_nameRest hc).2 (ih hw)

theorem isName_of_forall {w : List Char} (hne : w ≠ []) (hw : ∀ c ∈ w, isNameStart c) :
    IsName (String.ofList w) := by
  obtain ⟨c, v, rfl⟩ := List.exists_cons_of_ne_nil hne
  obtain ⟨hc, hv⟩ := List.forall_mem_cons.1 hw
  have hrest : v ∈ nameRest := mem_nameRest_of_forall fun d hd => isNameChar_of_isNameStart (hv d hd)
  rw [IsName, String.toList_ofList]
  exact .inl (mem_name.2 (.inl ⟨c, v, rfl, hc, hrest⟩))

end Digits

end Path
end WidgetLocator
