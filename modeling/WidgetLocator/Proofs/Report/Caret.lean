import WidgetLocator.Proofs.Path.Printer
import WidgetLocator.Proofs.Report.Place

/-! The column of the caret. The margin of the second line has a fixed width, and in the first line the
number takes up at least three characters. So the caret stands below its place as long as three are
enough for the number, and for every digit more it falls back by one character. -/

namespace WidgetLocator.Report

open WidgetLocator.Path Text

namespace Place

variable {p : Place}

theorem length_gutter : p.gutter.length = 9 + ((toString p.number).length - 3) := by
  simp only [gutter, String.length_append, String.length_ofList, List.length_replicate,
    show ">> ".length = 3 from rfl, show " | ".length = 3 from rfl]
  omega

theorem length_number_le_iff : (toString p.number).length ≤ 3 ↔ p.number < 1000 :=
  Nat.length_repr_le_iff (by decide)

/-- The margin of the second line is as wide as the gutter is for numbers of three digits. -/
theorem idxOf?_secondLine : p.secondLine.toList.idxOf? '^' = some (9 + p.column) := by
  have hline : p.secondLine.toList = ("       | ".toList ++ List.replicate p.column ' ') ++ ['^'] := by
    simp [secondLine]
  have hmargin : ("       | ".toList ++ List.replicate p.column ' ').idxOf? '^' = none := by
    rw [List.idxOf?_eq_none_iff, List.mem_append, not_or]
    exact ⟨by decide, by simp [List.mem_replicate]⟩
  have hlength : ("       | ".toList ++ List.replicate p.column ' ').length = 9 + p.column := by
    rw [List.length_append, List.length_replicate]
    rfl
  rw [List.idxOf?] at hmargin ⊢
  rw [hline, List.findIdx?_append, hmargin, hlength]
  simp

theorem feed_notMem_firstLine (h : '\n' ∉ p.line.toList) : '\n' ∉ p.firstLine.toList := by
  have hnumber : '\n' ∉ (toString p.number).toList := by
    rw [Nat.toString_eq_ofList_toDigits, String.toList_ofList]
    exact fun hfeed => absurd (isDigit_of_mem_toDigits _ hfeed) (by decide)
  simp only [firstLine, gutter, String.toList_append, String.toList_ofList, List.mem_append, not_or]
  exact ⟨⟨⟨⟨by decide, by simp [List.mem_replicate]⟩, hnumber⟩, by decide⟩, h⟩

theorem feed_notMem_secondLine : '\n' ∉ p.secondLine.toList := by
  simp only [secondLine, String.toList_append, String.toList_ofList, List.mem_append, not_or]
  exact ⟨⟨by decide, by simp [List.mem_replicate]⟩, by decide⟩

end Place

theorem exists_place_after_feeds {feeds o : Nat} {lead tail : String} (ho : feeds + lead.utf8ByteSize = o)
    (hfeed : '\n' ∉ (lead ++ tail).toList) :
    ∃ p : Place, p.Marks (String.ofList (List.replicate feeds '\n') ++ lead ++ tail) o ∧
      p.number = feeds + 1 ∧ p.line = lead ++ tail ∧ p.column = lead.length := by
  let p : Place := ⟨String.ofList (List.replicate feeds '\n'), lead, tail, ""⟩
  have hopens : p.above = "" ∨ ∃ s, p.above = s ++ "\n" := by
    cases feeds with
    | zero => exact .inl rfl
    | succ n =>
      refine .inr ⟨String.ofList (List.replicate n '\n'), ?_⟩
      rw [← String.toList_inj]
      simp [p, List.replicate_succ']
  have hmarks := p.marks_self hopens (.inl rfl) hfeed
  have hoffset : p.offset = o := by
    rw [Place.offset, String.utf8ByteSize_append, String.utf8ByteSize_ofList, utf8Len_replicate, ← ho,
      show '\n'.utf8Size = 1 from rfl, Nat.mul_one]
  rw [hoffset, String.append_empty] at hmarks
  have hlead : lead.toList.count '\n' = 0 := List.count_eq_zero.2 fun h => hfeed (by simp [h])
  exact ⟨p, hmarks, by simp [Place.number, p, hlead], rfl, rfl⟩

/-- The context of an offset is two lines. The place of the offset is in the first as far behind the
gutter as it is behind the beginning of its own line, and the caret in the second is before that by the
digits that the number has over three. So the two have the same column just when the number of the line
has at most three digits. -/
theorem caret_below_place_iff (source : String) (o : Nat) : ∃ p : Place, p.Marks source o ∧
    (sourceContext source o).toList.splitOn '\n' = [p.firstLine.toList, p.secondLine.toList, []] ∧
    p.firstLine = p.gutter ++ p.line ∧ ∃ caret, p.secondLine.toList.idxOf? '^' = some caret ∧
      p.gutter.length + p.column = caret + ((toString p.number).length - 3) ∧
      (caret = p.gutter.length + p.column ↔ p.number < 1000) := by
  obtain ⟨p, hp⟩ := exists_place source o
  refine ⟨p, hp, ?_, rfl, 9 + p.column, Place.idxOf?_secondLine, ?_, ?_⟩
  · have htext : (sourceContext source o).toList =
        p.firstLine.toList ++ '\n' :: (p.secondLine.toList ++ '\n' :: []) := by simp [hp.context_eq]
    rw [htext, List.splitOn_append_cons_self_of_not_mem (Place.feed_notMem_firstLine hp.no_feed),
      List.splitOn_append_cons_self_of_not_mem Place.feed_notMem_secondLine, List.splitOn_nil]
  · rw [Place.length_gutter]
    omega
  · rw [Place.length_gutter, ← Place.length_number_le_iff]
    omega

/-- In the thousandth line the caret is one character before the bracket that it is for. -/
theorem not_caret_below_place_thousandth : ∃ p : Place,
    p.Marks (String.ofList (List.replicate 999 '\n') ++ "form/" ++ "[") 1004 ∧
    sourceContext (String.ofList (List.replicate 999 '\n') ++ "form/" ++ "[") 1004 =
      ">> 1000 | form/[\n       |      ^\n" ∧
    p.firstLine = ">> 1000 | form/[" ∧ p.secondLine = "       |      ^" ∧
    p.gutter.length + p.column = 15 ∧ p.secondLine.toList.idxOf? '^' = some 14 := by
  obtain ⟨p, hp, hnumber, hline, hcolumn⟩ :=
    @exists_place_after_feeds 999 1004 "form/" "[" (by decide +kernel) (by decide)
  have hfirst : p.firstLine = ">> 1000 | form/[" := by
    rw [Place.firstLine, Place.gutter, hnumber, hline]
    decide +kernel
  have hsecond : p.secondLine = "       |      ^" := by
    rw [Place.secondLine, hcolumn]
    decide +kernel
  refine ⟨p, hp, ?_, hfirst, hsecond, ?_, ?_⟩
  · rw [hp.context_eq, hfirst, hsecond]
    decide +kernel
  · rw [Place.length_gutter, hnumber, hcolumn]
    decide +kernel
  · rw [Place.idxOf?_secondLine, hcolumn]
    decide

end WidgetLocator.Report
