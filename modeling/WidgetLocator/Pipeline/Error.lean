import WidgetLocator.Format.Error
import WidgetLocator.Path.Error
import WidgetLocator.Token.Lexer

/-! Why a path does not become a rendered text: one of the stages refuses its input. -/

namespace WidgetLocator

inductive PipelineError where
  | lex (e : LexError)
  | parse (e : ParseError)
  | format (e : FormatError)
  /-- A stage that is not part of the library fails with a message of its own. -/
  | stage (name message : String)
deriving DecidableEq, Repr

namespace PipelineError

def offset? : PipelineError → Option Nat
  | lex e => some e.offset
  | parse e => some e.offset
  | format _ => none
  | stage _ _ => none

def message : PipelineError → String
  | lex e => e.message
  | parse e => e.message
  | format e => e.message
  | stage name message => s!"Stage '{name}' failed: {message}"

end PipelineError
end WidgetLocator
