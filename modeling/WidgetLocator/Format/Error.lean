/-! Why records cannot be written in a format. -/

namespace WidgetLocator

inductive FormatError where
  | notFound (name : String)
  /-- The format exists and gave up, for a reason of its own. -/
  | refused (reason : String)
deriving DecidableEq, Repr

def FormatError.message : FormatError → String
  | notFound name => s!"Format '{name}' not found"
  | refused reason => s!"Serialization error: {reason}"

end WidgetLocator
