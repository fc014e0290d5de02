import WidgetLocator.File.Error
import WidgetLocator.Report
import WidgetLocator.Source

/-! What a run of the command leaves behind: a code, and the texts on the two outputs. A file with
paths is all or nothing: its outputs follow each other if every path can be run, and otherwise only
the first path that cannot be run is reported. -/

namespace WidgetLocator.CommandLine

structure Outcome where
  code : Nat
  output : String
  errors : String
deriving DecidableEq, Repr

namespace Outcome

def success (output : String) : Outcome := ⟨0, output, ""⟩

def failure (errors : String) : Outcome := ⟨1, "", errors⟩

def ofPath (run : String → Except PipelineError String) (path : String) : Outcome :=
  match run path with
  | .ok output => success output
  | .error e => failure (Report.ofError path e)

def ofSource (run : String → Except PipelineError String) (file source : String) : Outcome :=
  match Source.runAll run source with
  | .ok outputs => success (String.join outputs)
  | .error e => failure (s!"{file}:{e.line}\n" ++ Report.ofError e.expression e.cause)

/-- Runs every path in a file, if the file can be read. -/
def ofFile (run : String → Except PipelineError String) (file : String) :
    Except FileError String → Outcome
  | .ok source => ofSource run file source
  | .error e => failure s!"Error reading {file}: {e.message}\n"

end Outcome
end WidgetLocator.CommandLine
