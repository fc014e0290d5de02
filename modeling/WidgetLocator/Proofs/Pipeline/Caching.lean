import Mathlib.Data.List.Forall2
import WidgetLocator.Pipeline.Caching
import WidgetLocator.Except

/-! The history of a caching pipeline. Whatever was done before, a run answers what the wrapped
pipeline answers. What is kept after an operation is settled by that operation alone: the records of
a run that succeeded in all four stages, and nothing after any other run or a rewrapping. -/

namespace WidgetLocator

variable {Front : Type}

namespace Pipeline

variable {p : Pipeline Front} {source text : String} {records : List Record} {e : PipelineError}

def Passes (p : Pipeline Front) (source : String) (records : List Record) (text : String) : Prop :=
  ∃ front steps, p.tokenize source = .ok front ∧ p.parse front = .ok steps ∧
    p.convert steps = .ok records ∧ p.render records = .ok text

/-- A stage fails with the error, and those before it succeed. -/
inductive Refuses (p : Pipeline Front) (source : String) (e : PipelineError) : Prop
  | tokenize : p.tokenize source = .error e → Refuses p source e
  | parse {front : Front} : p.tokenize source = .ok front → p.parse front = .error e →
      Refuses p source e
  | convert {front : Front} {steps : List Step} : p.tokenize source = .ok front →
      p.parse front = .ok steps → p.convert steps = .error e → Refuses p source e
  | render {front : Front} {steps : List Step} {records : List Record} :
      p.tokenize source = .ok front → p.parse front = .ok steps → p.convert steps = .ok records →
      p.render records = .error e → Refuses p source e

theorem locate_eq_ok_iff : p.locate source = .ok records ↔ ∃ front steps,
    p.tokenize source = .ok front ∧ p.parse front = .ok steps ∧ p.convert steps = .ok records := by
  simp only [locate, bind_eq_ok_iff]
  constructor
  · intro h
    obtain ⟨front, hfront, steps, hsteps, hrecords⟩ := h
    exact ⟨front, steps, hfront, hsteps, hrecords⟩
  · intro h
    obtain ⟨front, steps, hfront, hsteps, hrecords⟩ := h
    exact ⟨front, hfront, steps, hsteps, hrecords⟩

theorem passes_iff :
    p.Passes source records text ↔ p.locate source = .ok records ∧ p.render records = .ok text := by
  rw [locate_eq_ok_iff, Passes]
  constructor
  · intro h
    obtain ⟨front, steps, hfront, hsteps, hrecords, htext⟩ := h
    exact ⟨⟨front, steps, hfront, hsteps, hrecords⟩, htext⟩
  · intro h
    obtain ⟨⟨front, steps, hfront, hsteps, hrecords⟩, htext⟩ := h
    exact ⟨front, steps, hfront, hsteps, hrecords, htext⟩

theorem run_eq_ok_iff : p.run source = .ok text ↔ ∃ records, p.Passes source records text := by
  simp only [run, bind_eq_ok_iff, passes_iff]

theorem run_eq_error_iff : p.run source = .error e ↔ p.Refuses source e := by
  constructor
  · intro h
    rcases bind_eq_error_iff.1 h with h | ⟨records, hrecords, htext⟩
    · rcases bind_eq_error_iff.1 h with h | ⟨front, hfront, h⟩
      · exact .tokenize h
      · rcases bind_eq_error_iff.1 h with h | ⟨steps, hsteps, h⟩
        · exact .parse hfront h
        · exact .convert hfront hsteps h
    · obtain ⟨front, steps, hfront, hsteps, hconvert⟩ := locate_eq_ok_iff.1 hrecords
      exact .render hfront hsteps hconvert htext
  · intro h
    cases h with
    | tokenize h => simp [run, locate, h, bind, Except.bind]
    | parse hfront h => simp [run, locate, hfront, h, bind, Except.bind]
    | convert hfront hsteps h => simp [run, locate, hfront, hsteps, h, bind, Except.bind]
    | render hfront hsteps hrecords h =>
      exact bind_eq_error_iff.2 (.inr ⟨_, locate_eq_ok_iff.2 ⟨_, _, hfront, hsteps, hrecords⟩, h⟩)

end Pipeline

namespace CachingPipeline

inductive Operation where
  | run (source : String)
  | rewrap

/-- What an operation leaves: the answer of a run, and the pipeline as it is from then on. -/
structure Outcome (Front : Type) where
  answer : Option (Except PipelineError String)
  pipeline : CachingPipeline Front

def perform (c : CachingPipeline Front) : Operation → Outcome Front
  | .run source => ⟨some (c.run source).1, (c.run source).2⟩
  | .rewrap => ⟨none, c.reset⟩

def history (c : CachingPipeline Front) : List Operation → List (Outcome Front)
  | [] => []
  | op :: ops => c.perform op :: history (c.perform op).pipeline ops

/-- The outcome is that of the operation for the wrapped pipeline, and of nothing before it. -/
structure Settled (p : Pipeline Front) (op : Operation) (o : Outcome Front) : Prop where
  wraps : o.pipeline.inner = p
  answer : o.answer = match op with
    | .run source => some (p.run source)
    | .rewrap => none
  refused : ∀ e, o.answer = some (.error e) ↔ ∃ source, op = .run source ∧ p.Refuses source e
  kept : ∀ records, o.pipeline.last = some records ↔
    ∃ source text, op = .run source ∧ p.Passes source records text
  agrees : ∀ records, o.pipeline.last = some records → ∃ source text, op = .run source ∧
    p.locate source = .ok records ∧ p.render records = .ok text ∧ o.answer = some (.ok text)
  dropped : ∀ e, o.answer = some (.error e) → o.pipeline.last = none

section Steps

variable {p : Pipeline Front} {c : CachingPipeline Front} {source : String}

/-- A run answers what the wrapped pipeline does, and keeps the records of a run that passes. -/
theorem run_spec (hc : c.inner = p) (source : String) : (c.run source).1 = p.run source ∧
    (c.run source).2.inner = p ∧ ∀ records,
      (c.run source).2.last = some records ↔ ∃ text, p.Passes source records text := by
  subst hc
  simp only [Pipeline.passes_iff]
  unfold run Pipeline.run
  cases hlocate : c.inner.locate source with
  | error e => exact ⟨rfl, rfl, fun records => by simp⟩
  | ok located =>
    simp only [bind, Except.bind]
    cases hrender : c.inner.render located with
    | error e =>
      refine ⟨rfl, rfl, fun records => ⟨nofun, fun h => ?_⟩⟩
      obtain ⟨text, hrecords, htext⟩ := h
      cases hrecords
      rw [hrender] at htext
      cases htext
    | ok text =>
      refine ⟨rfl, rfl, fun records => ⟨fun h => ?_, fun h => ?_⟩⟩
      · cases h
        exact ⟨text, rfl, hrender⟩
      · obtain ⟨text, hrecords, -⟩ := h
        cases hrecords
        rfl

theorem perform_settled (hc : c.inner = p) (op : Operation) : Settled p op (c.perform op) := by
  cases op with
  | rewrap => exact ⟨hc, rfl, by simp [perform], by simp [perform, reset, ofPipeline],
      by simp [perform, reset, ofPipeline], by simp [perform]⟩
  | run source =>
    obtain ⟨hanswer, hinner, hlast⟩ := run_spec hc source
    refine ⟨hinner, congrArg some hanswer, fun e => ?_, fun records => ?_, fun records h => ?_,
      fun e he => ?_⟩
    · simp [perform, hanswer, Pipeline.run_eq_error_iff]
    · simp [perform, hlast]
    · obtain ⟨text, hpasses⟩ := (hlast records).1 h
      obtain ⟨hrecords, htext⟩ := Pipeline.passes_iff.1 hpasses
      have hrun : p.run source = .ok text := Pipeline.run_eq_ok_iff.2 ⟨records, hpasses⟩
      exact ⟨source, text, rfl, hrecords, htext, congrArg some (hanswer.trans hrun)⟩
    · have herror : p.run source = .error e := hanswer.symm.trans (Option.some.inj he)
      refine Option.eq_none_iff_forall_not_mem.2 fun records h => ?_
      obtain ⟨text, hpasses⟩ := (hlast records).1 h
      rw [Pipeline.run_eq_ok_iff.2 ⟨records, hpasses⟩] at herror
      cases herror

end Steps

/-- Every operation of a history has the outcome that it has for the wrapped pipeline. -/
theorem history_settled (p : Pipeline Front) (ops : List Operation) :
    List.Forall₂ (Settled p) ops ((ofPipeline p).history ops) := by
  -- the pipelines of a history wrap the same one, whatever they keep
  suffices hall : ∀ c : CachingPipeline Front, c.inner = p →
      List.Forall₂ (Settled p) ops (c.history ops) from hall (ofPipeline p) rfl
  induction ops with
  | nil => exact fun c _ => .nil
  | cons op ops ih =>
    intro c hc
    have hop := perform_settled hc op
    exact .cons hop (ih _ hop.wraps)

end CachingPipeline
end WidgetLocator
