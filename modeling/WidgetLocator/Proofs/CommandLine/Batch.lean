import WidgetLocator.CommandLine.Outcome
import WidgetLocator.Pipeline.Basic
import WidgetLocator.Proofs.Source.Expressions

/-! A file of paths against its single paths. Each expression of the file is run as if it were given
alone: the outputs follow each other if all of them succeed, and else the first failure is reported
under the number of its line, and the outputs of the lines before it are lost. -/

namespace WidgetLocator

open Text

section Runs

open Source

variable {ε α : Type} {run : String → Except ε α} {before after es : List Expression} {e : Expression}

theorem Source.runEach_eq_ok {result : Expression → α} (h : ∀ e ∈ es, run e.text = .ok (result e)) :
    runEach run es = .ok (es.map result) := by
  induction es with
  | nil => rfl
  | cons e es ih =>
    obtain ⟨he, hes⟩ := List.forall_mem_cons.1 h
    simp [runEach, he, ih hes]

/-- Nothing after the first failure is run. -/
theorem Source.runEach_eq_error {result : Expression → α} {cause : ε}
    (hbefore : ∀ b ∈ before, run b.text = .ok (result b)) (he : run e.text = .error cause) :
    runEach run (before ++ e :: after) = .error ⟨e.line, e.text, cause⟩ := by
  induction before with
  | nil => simp [runEach, he]
  | cons b before ih =>
    obtain ⟨hb, hrest⟩ := List.forall_mem_cons.1 hbefore
    simp [runEach, hb, ih hrest]

theorem Source.line_of_mem_numbered {line : Nat} {lines : List (List Char)}
    (h : e ∈ numbered line lines) :
    line ≤ e.line ∧ lines[e.line - line]?.map (fun cs => String.ofList (trimList cs)) = some e.text := by
  obtain ⟨hle, ⟨cs, hcs, htrim⟩, -⟩ := mem_numbered_iff.1 h
  exact ⟨hle, by rw [hcs, Option.map_some, trimsTo_iff.1 htrim, String.ofList_toList]⟩

end Runs

namespace CommandLine.Outcome

variable {run : String → Except PipelineError String} {path : String}

theorem ofPath_code_eq_zero_iff :
    (ofPath run path).code = 0 ↔ run path = .ok (ofPath run path).output := by
  unfold ofPath
  cases run path <;> simp [success, failure]

theorem exists_error_of_code_ne_zero (h : (ofPath run path).code ≠ 0) :
    ∃ cause, run path = .error cause ∧ (ofPath run path).errors = Report.ofError path cause := by
  unfold ofPath at h ⊢
  cases hrun : run path with
  | error cause => exact ⟨cause, rfl, rfl⟩
  | ok output => simp [hrun, success] at h

/-- A file of paths is the batch of its expressions. If each of them succeeds alone, the outputs follow
each other; else nothing is put out, and the report on the first that fails alone comes after the
number of its line. That number is where the expression stands in the file. -/
theorem ofFile_all_or_nothing (run : String → Except PipelineError String) (file source : String) :
    (ofFile run file (.ok source) =
      match (Source.expressions source).find? fun e => (ofPath run e.text).code != 0 with
      | none =>
        ⟨0, String.join ((Source.expressions source).map fun e => (ofPath run e.text).output), ""⟩
      | some e => ⟨1, "", file ++ ":" ++ toString e.line ++ "\n" ++ (ofPath run e.text).errors⟩) ∧
      ∀ e ∈ Source.expressions source, 1 ≤ e.line ∧
        (linesOf source.toList)[e.line - 1]?.map (fun cs => String.ofList (trimList cs)) = some e.text := by
  refine ⟨?_, fun e he => Source.line_of_mem_numbered he⟩
  rw [ofFile, ofSource, Source.runAll]
  cases hfind : (Source.expressions source).find? fun e => (ofPath run e.text).code != 0 with
  | none =>
    have succeed : ∀ e ∈ Source.expressions source, run e.text = .ok (ofPath run e.text).output := by
      intro e he
      have hcode := List.find?_eq_none.1 hfind e he
      exact ofPath_code_eq_zero_iff.1 (by simpa using hcode)
    rw [Source.runEach_eq_ok succeed]
    rfl
  | some e =>
    obtain ⟨hcode, before, after, hsplit, hbefore⟩ := List.find?_eq_some_iff_append.1 hfind
    obtain ⟨cause, herror, hreport⟩ := exists_error_of_code_ne_zero (by simpa using hcode)
    have succeed : ∀ b ∈ before, run b.text = .ok (ofPath run b.text).output := by
      intro b hb
      exact ofPath_code_eq_zero_iff.1 (by simpa using hbefore b hb)
    rw [hsplit, Source.runEach_eq_error succeed herror]
    simp only [hreport]
    rfl

/-- The third line fails, and the second leaves no trace. -/
theorem ofFile_all_or_nothing_third :
    ofFile Pipeline.standard.run "paths.txt" (.ok "# form\n form/label \nrow[@id='x\nbutton") =
      ⟨1, "", "paths.txt:3\n" ++ (ofPath Pipeline.standard.run "row[@id='x").errors⟩ ∧
    ((Text.linesOf "# form\n form/label \nrow[@id='x\nbutton".toList)[3 - 1]?.map fun cs =>
      String.ofList (trimList cs)) = some "row[@id='x" := by
  have hes : Source.expressions "# form\n form/label \nrow[@id='x\nbutton" =
      [⟨2, "form/label"⟩, ⟨3, "row[@id='x"⟩, ⟨4, "button"⟩] := by decide +kernel
  have hfirst : ([⟨2, "form/label"⟩, ⟨3, "row[@id='x"⟩, ⟨4, "button"⟩] : List Source.Expression).find?
      (fun e => (ofPath Pipeline.standard.run e.text).code != 0) = some ⟨3, "row[@id='x"⟩ := by
    decide +kernel
  obtain ⟨hfile, hlines⟩ := ofFile_all_or_nothing Pipeline.standard.run "paths.txt"
    "# form\n form/label \nrow[@id='x\nbutton"
  rw [hes, hfirst] at hfile
  exact ⟨hfile, (hlines ⟨3, "row[@id='x"⟩ (by simp [hes])).2⟩

end CommandLine.Outcome
end WidgetLocator
