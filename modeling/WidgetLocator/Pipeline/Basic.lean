import WidgetLocator.Path.Parser
import WidgetLocator.Path.Segments
import WidgetLocator.Pipeline.Rendering
import WidgetLocator.Record.Synthesis

/-! The way from a path to its rendered locators, in four stages: read the source, parse what was
read, convert the steps, render the records. Any stage can be exchanged for another function of the
same type; the first stage that fails decides the outcome. -/

namespace WidgetLocator

/-- Four stages, the first of which hands a `Front` to the second. -/
structure Pipeline (Front : Type) where
  tokenize : String → Except PipelineError Front
  parse : Front → Except PipelineError (List Step)
  convert : List Step → Except PipelineError (List Record)
  render : List Record → Except PipelineError String

def parseExpression (source : String) : Except PipelineError (List Step) := do
  Path.parse (← (Token.tokenize source).mapError .lex) |>.mapError .parse

def locate (source : String) : Except PipelineError (List Record) := do
  return Record.ofSteps .heuristic (← parseExpression source)

namespace Pipeline

variable {Front : Type}

def locate (p : Pipeline Front) (source : String) : Except PipelineError (List Record) := do
  p.convert (← p.parse (← p.tokenize source))

def run (p : Pipeline Front) (source : String) : Except PipelineError String := do
  p.render (← p.locate source)

def withClassifier (p : Pipeline Front) (classify : Classifier) : Pipeline Front :=
  { p with convert := fun steps => .ok (Record.ofSteps classify steps) }

def withRendering (p : Pipeline Front) (s : Rendering) : Pipeline Front := { p with render := s.run }

def withFormatter (p : Pipeline Front) (f : Formatter) : Pipeline Front := p.withRendering ⟨f⟩

/-- The full grammar, the usual classifier and declarations. -/
def standard : Pipeline (List Token) where
  tokenize source := (Token.tokenize source).mapError .lex
  parse tokens := (Path.parse tokens).mapError .parse
  convert steps := .ok (Record.ofSteps .heuristic steps)
  render records := ((Declarations.formatter Declarations.defaultIndent).serialize records).mapError .format

/-- The same with the plain form of paths, whose reader takes the source as it is. -/
def segments : Pipeline String where
  tokenize source := .ok source
  parse source := .ok (Path.segments source)
  convert := standard.convert
  render := standard.render

/-- The pipeline with the named stage replaced by one that always fails. A name that is no stage
replaces nothing. -/
def refusing (p : Pipeline Front) (name message : String) : Pipeline Front :=
  let error := PipelineError.stage name message
  match name with
  | "tokenize" => { p with tokenize := fun _ => .error error }
  | "parse" => { p with parse := fun _ => .error error }
  | "convert" => { p with convert := fun _ => .error error }
  | "render" => { p with render := fun _ => .error error }
  | _ => p

end Pipeline
end WidgetLocator
