import WidgetLocator.Pipeline.Basic

/-! A pipeline that keeps the records of its latest run, if that run succeeded in every stage. -/

namespace WidgetLocator

structure CachingPipeline (Front : Type) where
  inner : Pipeline Front
  /-- The records of the latest run, `none` before the first run and after a failure. -/
  last : Option (List Record)

namespace CachingPipeline

variable {Front : Type}

def ofPipeline (p : Pipeline Front) : CachingPipeline Front := ⟨p, none⟩

/-- Runs the pipeline once; the records are kept only when they could be rendered. -/
def run (c : CachingPipeline Front) (source : String) :
    Except PipelineError String × CachingPipeline Front :=
  match c.inner.locate source with
  | .error e => (.error e, ⟨c.inner, none⟩)
  | .ok records =>
    match c.inner.render records with
    | .error e => (.error e, ⟨c.inner, none⟩)
    | .ok text => (.ok text, ⟨c.inner, some records⟩)

/-- Unwraps the pipeline and wraps it again, which forgets the records. -/
def reset (c : CachingPipeline Front) : CachingPipeline Front := ofPipeline c.inner

end CachingPipeline
end WidgetLocator
