import WidgetLocator.Pipeline.Error
import WidgetLocator.Text.Line

/-! Sources of many paths, one a line. Blank lines and lines that begin with a number sign are left
out; white space around a path does not belong to it. -/

namespace WidgetLocator.Source

open Text

structure Expression where
  /-- Counted from one over all lines of the source. -/
  line : Nat
  text : String
deriving DecidableEq, Repr

structure LineError (ε : Type) where
  line : Nat
  expression : String
  cause : ε

def LineError.message (e : LineError PipelineError) : String := s!"Line {e.line}: {e.cause.message}"

def numbered (line : Nat) : List (List Char) → List Expression
  | [] => []
  | cs :: lines =>
    let text := trimList cs
    let rest := numbered (line + 1) lines
    if text.isEmpty || text.head? == some '#' then rest else ⟨line, String.ofList text⟩ :: rest

def expressions (source : String) : List Expression := numbered 1 (linesOf source.toList)

/-- Runs a function on every expression in order and stops at the first that fails. -/
def runEach {ε α : Type} (run : String → Except ε α) : List Expression → Except (LineError ε) (List α)
  | [] => .ok []
  | e :: rest =>
    match run e.text with
    | .error cause => .error ⟨e.line, e.text, cause⟩
    | .ok result =>
      match runEach run rest with
      | .error e => .error e
      | .ok results => .ok (result :: results)

def runAll {ε α : Type} (run : String → Except ε α) (source : String) :
    Except (LineError ε) (List α) := runEach run (expressions source)

end WidgetLocator.Source
