import WidgetLocator.Format.Registry
import WidgetLocator.Pipeline.Error

/-! The stage that renders records. It holds one formatter, which is given to it or looked up under
the name of its format. -/

namespace WidgetLocator

structure Rendering where
  formatter : Formatter

namespace Rendering

def named (r : Registry) (format : String) : Except FormatError Rendering := do
  return ⟨← r.lookup format⟩

/-- The stage for a format and an indent. Declarations are not looked up, and the indent counts for
them only. -/
def configured (r : Registry) (format : String) (indent : Nat) : Except FormatError Rendering :=
  if format = "declarations" then .ok ⟨Declarations.formatter indent⟩ else named r format

def formatName (s : Rendering) : String := s.formatter.name

def run (s : Rendering) (records : List Record) : Except PipelineError String :=
  (s.formatter.serialize records).mapError .format

end Rendering
end WidgetLocator
