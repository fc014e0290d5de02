import WidgetLocator.Proofs.Text.Line
import WidgetLocator.Source

/-! The expressions of a source, line by line. An expression is settled by its own line, and its number
by how many line feeds stand before it, so a source can be cut at any line feed: the expressions of the
second part follow those of the first, further down by the lines of the first. -/

namespace WidgetLocator.Source

open Text

/-- A text that is neither blank nor a comment. -/
def IsPath (text : List Char) : Prop := text ≠ [] ∧ text.head? ≠ some '#'

instance (text : List Char) : Decidable (IsPath text) := inferInstanceAs (Decidable (_ ∧ _))

def IsIdle (line : List Char) : Prop := ∃ text, TrimsTo line text ∧ ¬ IsPath text

namespace Expression

def down (k : Nat) (e : Expression) : Expression := ⟨e.line + k, e.text⟩

/-- The expression is what the line of its number holds between its white space. -/
structure StandsIn (e : Expression) (source : String) : Prop where
  counted : 1 ≤ e.line
  trimmed : ∃ line, (source.toList.splitOn '\n')[e.line - 1]? = some line ∧ TrimsTo line e.text.toList
  path : IsPath e.text.toList

end Expression

section Numbered

variable {n k : Nat} {cs : List Char} {lines xs ys : List (List Char)} {e : Expression}

theorem numbered_cons : numbered n (cs :: lines) =
    if IsPath (trimList cs) then ⟨n, String.ofList (trimList cs)⟩ :: numbered (n + 1) lines
    else numbered (n + 1) lines := by
  rw [numbered]
  by_cases hpath : IsPath (trimList cs)
  · rw [if_pos hpath, if_neg (by simpa [IsPath] using hpath)]
  · rw [if_neg hpath, if_pos ?_]
    rw [IsPath, not_and_or] at hpath
    simpa [Decidable.not_not] using hpath

theorem numbered_of_isIdle (h : IsIdle cs) : numbered n (cs :: lines) = numbered (n + 1) lines := by
  obtain ⟨text, htrim, hpath⟩ := h
  rw [numbered_cons, trimsTo_iff.1 htrim, if_neg hpath]

theorem numbered_append : numbered n (xs ++ ys) = numbered n xs ++ numbered (n + xs.length) ys := by
  induction xs generalizing n with
  | nil => rfl
  | cons x xs ih =>
    have hnext : n + (x :: xs).length = n + 1 + xs.length := by rw [List.length_cons]; omega
    rw [List.cons_append, numbered_cons, numbered_cons, ih, hnext]
    split <;> rfl

theorem numbered_add : numbered (n + k) lines = (numbered n lines).map (.down k) := by
  induction lines generalizing n with
  | nil => rfl
  | cons cs lines ih =>
    rw [numbered_cons, numbered_cons, Nat.add_right_comm, ih]
    split <;> rfl

theorem numbered_congr (h : xs.map trimList = ys.map trimList) : numbered n xs = numbered n ys := by
  induction xs generalizing n ys with
  | nil =>
    obtain rfl : ys = [] := by simpa using h.symm
    rfl
  | cons x xs ih =>
    cases ys with
    | nil => simp at h
    | cons y ys =>
      obtain ⟨hfirst, hrest⟩ := List.cons.inj h
      rw [numbered_cons, numbered_cons, hfirst, ih hrest]

theorem mem_numbered_iff : e ∈ numbered n lines ↔ n ≤ e.line ∧
    (∃ cs, lines[e.line - n]? = some cs ∧ TrimsTo cs e.text.toList) ∧ IsPath e.text.toList := by
  induction lines generalizing n with
  | nil => simp [numbered]
  | cons cs lines ih =>
    have later (hlt : n < e.line) : (cs :: lines)[e.line - n]? = lines[e.line - (n + 1)]? := by
      rw [show e.line - n = e.line - (n + 1) + 1 by omega, List.getElem?_cons_succ]
    rw [numbered_cons]
    constructor
    · intro h
      have hmem : e = ⟨n, String.ofList (trimList cs)⟩ ∧ IsPath (trimList cs) ∨ e ∈ numbered (n + 1) lines := by
        split at h
        · next hpath => exact (List.mem_cons.1 h).imp_left fun he => ⟨he, hpath⟩
        · exact .inr h
      rcases hmem with ⟨rfl, hpath⟩ | h
      · simpa using ⟨trimsTo_trimList cs, hpath⟩
      · obtain ⟨hle, hline, hpath⟩ := ih.1 h
        exact ⟨by omega, later hle ▸ hline, hpath⟩
    · rintro ⟨hle, ⟨line, hline, htrim⟩, hpath⟩
      rcases hle.eq_or_lt with heq | hlt
      · rw [heq, Nat.sub_self, List.getElem?_cons_zero, Option.some.injEq] at hline
        have htext := trimsTo_iff.1 (hline ▸ htrim)
        rw [htext, if_pos hpath, String.ofList_toList, heq]
        exact List.mem_cons_self
      · have hmem := ih.2 ⟨hlt, ⟨line, later hlt ▸ hline, htrim⟩, hpath⟩
        split
        · exact List.mem_cons_of_mem _ hmem
        · exact hmem

theorem numbered_pairwise : (numbered n lines).Pairwise fun d e => d.line < e.line := by
  induction lines generalizing n with
  | nil => exact .nil
  | cons cs lines ih =>
    rw [numbered_cons]
    split
    · exact .cons (fun e he => (mem_numbered_iff.1 he).1) ih
    · exact ih

end Numbered

section Sources

variable {source : String}

/-- No carriage return and no empty last line is ever part of an expression, so the expressions stand
between the line feeds. -/
theorem expressions_eq (source : String) :
    expressions source = numbered 1 (source.toList.splitOn '\n') := by
  rw [expressions, linesOf]
  obtain ⟨init, last, hpieces⟩ : ∃ init last, source.toList.splitOn '\n' = init ++ [last] :=
    ⟨_, _, (List.dropLast_append_getLast (List.splitOn_ne_nil '\n' source.toList)).symm⟩
  have hreturns : (init.map dropReturn).map trimList = init.map trimList := by
    rw [List.map_map]
    exact List.map_congr_left fun cs _ => trimList_dropReturn cs
  rw [hpieces, List.dropLast_concat, List.getLast?_concat, Option.getD_some, numbered_append,
    numbered_append, numbered_congr hreturns, List.length_map]
  -- an empty last piece is no line of the source, and as a line it would be idle
  cases last with
  | nil => rfl
  | cons c cs => rfl

theorem expressions_intercalate (texts : List String) : expressions ("\n".intercalate texts) =
    numbered 1 (texts.flatMap fun t => t.toList.splitOn '\n') := by
  have feed : "\n".toList = ['\n'] := rfl
  rw [expressions_eq, String.toList_intercalate, feed, ← List.flatMap_map]
  cases htexts : texts.map String.toList with
  | nil => rfl
  | cons t ts =>
    congr 1
    clear htexts
    induction ts generalizing t with
    | nil => simp
    | cons u ts ih =>
      rw [List.intercalate_cons_cons, List.append_assoc, List.singleton_append,
        List.splitOn_append_cons_self, ih, ← List.flatMap_cons]

theorem expressions_append (a b : String) : expressions (a ++ "\n" ++ b) =
    expressions a ++ (expressions b).map (.down (a.toList.count '\n' + 1)) := by
  have htext : (a ++ "\n" ++ b).toList = a.toList ++ '\n' :: b.toList := by simp
  rw [expressions_eq, htext, List.splitOn_append_cons_self, numbered_append, length_splitOn,
    numbered_add, expressions_eq, expressions_eq]

/-- Expressions after an idle line move up by one line when it is left out, and the others stay. -/
theorem expressions_insert {above : List String} {line : String} (below : List String)
    (habove : ∀ l ∈ above, '\n' ∉ l.toList) (hline : '\n' ∉ line.toList) (hidle : IsIdle line.toList) :
    expressions ("\n".intercalate (above ++ line :: below)) =
      (expressions ("\n".intercalate (above ++ below))).map fun e =>
        if e.line ≤ above.length then e else e.down 1 := by
  have hlines : above.flatMap (fun t => t.toList.splitOn '\n') = above.map String.toList := by
    rw [← List.flatMap_singleton' (above.map String.toList), List.flatMap_map]
    exact List.flatMap_congr fun l hl => List.splitOn_eq_singleton (habove l hl)
  rw [expressions_intercalate, expressions_intercalate, List.flatMap_append, List.flatMap_append,
    List.flatMap_cons, List.splitOn_eq_singleton hline, hlines, List.singleton_append, numbered_append,
    numbered_of_isIdle hidle, numbered_add, numbered_append, List.map_append, List.length_map]
  -- the numbers are bounded by the lines above, and those of the others begin behind them
  congr 1
  · refine (List.map_id _).symm.trans (List.map_congr_left fun e he => ?_)
    obtain ⟨hle, ⟨cs, hcs, -⟩, -⟩ := mem_numbered_iff.1 he
    have hlt := (List.getElem?_eq_some_iff.1 hcs).1
    rw [List.length_map] at hlt
    rw [if_pos (by omega)]
    rfl
  · refine List.map_congr_left fun e he => ?_
    have hle := (mem_numbered_iff.1 he).1
    rw [if_neg (by omega)]

theorem expressions_withReturns (source : String) :
    expressions (String.ofList (withReturns source.toList)) = expressions source := by
  rw [expressions_eq, expressions_eq, String.toList_ofList,
    numbered_congr (map_trimList_withReturns source.toList)]

theorem mem_expressions_iff {e : Expression} : e ∈ expressions source ↔ e.StandsIn source := by
  rw [expressions_eq, mem_numbered_iff]
  exact ⟨fun ⟨hle, hline, hpath⟩ => ⟨hle, hline, hpath⟩, fun h => ⟨h.counted, h.trimmed, h.path⟩⟩

theorem Expression.StandsIn.no_feed {e : Expression} (h : e.StandsIn source) : '\n' ∉ e.text.toList := by
  obtain ⟨line, hline, ⟨⟨before, after, rfl, -, -⟩, -, -⟩⟩ := h.trimmed
  have hfeed := notMem_of_mem_splitOn (List.mem_of_getElem? hline)
  simp only [List.mem_append, not_or] at hfeed
  exact hfeed.1.2

end Sources

/-- Sources are read line by line. The expressions of two sources with a line feed between them are
those of the first and those of the second, which stand further down. Lines without an expression
only count, and neither the kind of the line ends nor one at the end of the source matters. The
expressions stand in the order of their lines, and they are exactly what the lines hold between their
white space where that is neither blank nor a comment. -/
theorem expressions_by_line :
    (∀ a b, expressions (a ++ "\n" ++ b) =
      expressions a ++ (expressions b).map (.down (a.toList.count '\n' + 1))) ∧
    (∀ above line below, (∀ l ∈ above, '\n' ∉ l.toList) → '\n' ∉ line.toList → IsIdle line.toList →
      expressions ("\n".intercalate (above ++ line :: below)) =
        (expressions ("\n".intercalate (above ++ below))).map fun e =>
          if e.line ≤ above.length then e else e.down 1) ∧
    (∀ source, expressions (String.ofList (withReturns source.toList)) = expressions source) ∧
    (∀ source, expressions (source ++ "\n") = expressions source) ∧
    ∀ source, (expressions source).Pairwise (fun d e => d.line < e.line) ∧
      (∀ e, e ∈ expressions source ↔ e.StandsIn source) ∧
      ∀ e ∈ expressions source, '\n' ∉ e.text.toList := by
  refine ⟨expressions_append, fun above line below => expressions_insert below,
    expressions_withReturns, fun source => ?_, fun source => ⟨?_, fun e => mem_expressions_iff, ?_⟩⟩
  · have hend := expressions_append source ""
    rwa [String.append_empty, show expressions "" = [] from rfl, List.map_nil, List.append_nil] at hend
  · exact expressions_eq source ▸ numbered_pairwise
  · exact fun e he => (mem_expressions_iff.1 he).no_feed

/-- A comment between two paths, indented by a space that is not an ASCII one. -/
theorem expressions_by_line_comment : IsIdle "\u2003# old".toList ∧
    expressions ("\n".intercalate (["form"] ++ "\u2003# old" :: [" row\r"])) =
      (expressions ("\n".intercalate (["form"] ++ [" row\r"]))).map (fun e =>
        if e.line ≤ 1 then e else e.down 1) ∧
    ⟨3, "row"⟩ ∈ expressions "form\n\u2003# old\n row\r" ∧ '\n' ∉ "row".toList := by
  obtain ⟨-, hinsert, -, -, hlines⟩ := expressions_by_line
  have hidle : IsIdle "\u2003# old".toList := ⟨_, trimsTo_trimList _, by decide +kernel⟩
  have hrow : ⟨3, "row"⟩ ∈ expressions "form\n\u2003# old\n row\r" := by decide +kernel
  refine ⟨hidle, hinsert ["form"] _ [" row\r"] (by simp) (by decide) hidle, hrow, ?_⟩
  exact (hlines _).2.2 _ hrow

end WidgetLocator.Source
