import Mathlib.Data.List.DropRight
import WidgetLocator.Text.Line

/-! Pieces of a text, and the white space at the ends of a piece. A line is the piece between two line
feeds but for a carriage return at its end, and trimming removes that as well. -/

namespace WidgetLocator.Text

section Pieces

variable {separator : Char} {cs piece : List Char}

theorem notMem_of_mem_splitOn (h : piece ∈ cs.splitOn separator) : separator ∉ piece := by
  induction cs generalizing piece with
  | nil =>
    obtain rfl : piece = [] := by simpa using h
    simp
  | cons c cs ih =>
    obtain ⟨first, rest, hsplit⟩ := List.exists_cons_of_ne_nil (List.splitOn_ne_nil separator cs)
    rw [hsplit] at ih
    rw [List.splitOn_cons_eq_if_modifyHead, hsplit] at h
    split at h
    · rcases List.mem_cons.1 h with rfl | h
      · simp
      · exact ih h
    · next hc =>
      rcases List.mem_cons.1 h with rfl | h
      · rw [List.mem_cons, not_or]
        exact ⟨fun heq => hc (by simp [heq]), ih List.mem_cons_self⟩
      · exact ih (List.mem_cons_of_mem _ h)

theorem length_splitOn (separator : Char) (cs : List Char) :
    (cs.splitOn separator).length = cs.count separator + 1 := by
  induction cs with
  | nil => simp
  | cons c cs ih =>
    rw [List.splitOn_cons_eq_if_modifyHead, List.count_cons]
    split <;> simp [ih]

end Pieces

section Trimming

variable {c : Char} {cs text before after : List Char}

/-- The characters are the text with white space around it, and the text neither begins nor ends with
white space. -/
structure TrimsTo (cs text : List Char) : Prop where
  around : ∃ before after, cs = before ++ text ++ after ∧
    (∀ c ∈ before, isSpace c) ∧ ∀ c ∈ after, isSpace c
  first : ∀ c ∈ text.head?, isSpace c = false
  last : ∀ c ∈ text.getLast?, isSpace c = false

theorem trimList_eq (cs : List Char) : trimList cs = (cs.dropWhile isSpace).rdropWhile isSpace := rfl

theorem trimsTo_trimList (cs : List Char) : TrimsTo cs (trimList cs) := by
  rw [trimList_eq]
  refine ⟨⟨cs.takeWhile isSpace, (cs.dropWhile isSpace).rtakeWhile isSpace, ?_, ?_, ?_⟩, ?_, ?_⟩
  · rw [List.append_assoc, List.rdropWhile_append_rtakeWhile, List.takeWhile_append_dropWhile]
  · exact fun c => List.mem_takeWhile_imp
  · exact fun c => List.mem_rtakeWhile_imp
  · intro c hc
    have hcs := List.head?_dropWhile_not isSpace cs
    obtain ⟨v, hv⟩ := List.rdropWhile_prefix isSpace (l := cs.dropWhile isSpace)
    rw [← hv, List.head?_append, Option.mem_def.1 hc] at hcs
    simpa using hcs
  · intro c hc
    have hne : (cs.dropWhile isSpace).rdropWhile isSpace ≠ [] := by
      rintro h
      simp [h] at hc
    have hlast := List.rdropWhile_last_not isSpace _ hne
    rw [List.getLast?_eq_some_getLast hne, Option.mem_some_iff] at hc
    simpa [hc] using hlast

theorem trimsTo_iff : TrimsTo cs text ↔ trimList cs = text := by
  constructor
  · rintro ⟨⟨before, after, rfl, hbefore, hafter⟩, hfirst, hlast⟩
    rw [trimList_eq, List.append_assoc, List.dropWhile_append_of_pos hbefore]
    cases text with
    | nil =>
      rw [List.nil_append, List.dropWhile_eq_nil_iff.2 hafter]
      rfl
    | cons c cs =>
      have hc : isSpace c = false := hfirst c rfl
      rw [List.cons_append, List.dropWhile_cons_of_neg (by simp [hc]), ← List.cons_append, List.rdropWhile,
        List.reverse_append, List.dropWhile_append_of_pos (by simpa using hafter)]
      refine List.rdropWhile_eq_self_iff.2 fun hne => ?_
      simpa using hlast _ (List.getLast?_eq_some_getLast hne)
  · rintro rfl
    exact trimsTo_trimList cs

theorem trimList_concat (hc : isSpace c) : trimList (cs ++ [c]) = trimList cs := by
  obtain ⟨⟨before, after, hcs, hbefore, hafter⟩, hfirst, hlast⟩ := trimsTo_trimList cs
  refine trimsTo_iff.1 ⟨⟨before, after ++ [c], ?_, hbefore, ?_⟩, hfirst, hlast⟩
  · rw [← List.append_assoc, ← hcs]
  · simpa [or_imp, forall_and, hc] using hafter

/-- The carriage return that a line can end in is white space. -/
theorem trimList_dropReturn (cs : List Char) : trimList (dropReturn cs) = trimList cs := by
  rw [dropReturn]
  split
  · next hlast =>
    obtain ⟨v, rfl⟩ := List.getLast?_eq_some_iff.1 hlast
    rw [List.dropLast_concat, trimList_concat (by decide)]
  · rfl

end Trimming

section Returns

variable {cs line : List Char}

/-- The characters with a carriage return before every line feed. -/
def withReturns (cs : List Char) : List Char := cs.flatMap fun c => if c = '\n' then ['\r', '\n'] else [c]

theorem withReturns_eq_self (h : '\n' ∉ cs) : withReturns cs = cs := by
  rw [withReturns, ← List.flatMap_singleton' cs, List.flatMap_assoc]
  refine List.flatMap_congr fun c hc => ?_
  have hne : c ≠ '\n' := fun heq => h (heq ▸ hc)
  simp [hne]

theorem withReturns_append_cons (hline : '\n' ∉ line) :
    withReturns (line ++ '\n' :: cs) = (line ++ ['\r']) ++ '\n' :: withReturns cs := by
  rw [withReturns, List.flatMap_append, ← withReturns, withReturns_eq_self hline]
  simp [withReturns]

theorem map_trimList_withReturns_intercalate {lines : List (List Char)} (hne : lines ≠ [])
    (hlines : ∀ line ∈ lines, '\n' ∉ line) :
    ((withReturns (['\n'].intercalate lines)).splitOn '\n').map trimList = lines.map trimList := by
  induction lines with
  | nil => exact absurd rfl hne
  | cons line lines ih =>
    obtain ⟨hline, hrest⟩ := List.forall_mem_cons.1 hlines
    cases lines with
    | nil => simp [withReturns_eq_self hline, List.splitOn_eq_singleton hline]
    | cons next lines =>
      have hreturn : '\n' ∉ line ++ ['\r'] := by simpa using hline
      rw [List.intercalate_cons_cons, List.append_assoc, List.singleton_append,
        withReturns_append_cons hline, List.splitOn_append_cons_self_of_not_mem hreturn, List.map_cons,
        ih (by simp) hrest, trimList_concat (by decide)]
      rfl

/-- Whichever kind its line end is of, a line has the same between its white space. -/
theorem map_trimList_withReturns (cs : List Char) :
    ((withReturns cs).splitOn '\n').map trimList = (cs.splitOn '\n').map trimList := by
  have hlines := map_trimList_withReturns_intercalate (List.splitOn_ne_nil '\n' cs)
    fun _ => notMem_of_mem_splitOn
  rwa [List.intercalate_splitOn] at hlines

end Returns

end WidgetLocator.Text
