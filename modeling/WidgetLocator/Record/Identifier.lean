/-! Identifiers: ASCII letters and digits in runs that single underscores join. Any text becomes one
when each maximal stretch of other characters between two such runs is replaced by an underscore and
the ends are cut off. -/

namespace WidgetLocator.Identifier

/-- The runs of letters and digits in `cs`, joined by underscores. `started` says that a run has been
written before `cs`, and `gap` that other characters have come since; the underscore for a gap is
written only when the next run begins. -/
def joinRuns : (gap : Bool) → (started : Bool) → List Char → List Char
  | _, _, [] => []
  | gap, started, c :: cs =>
    if c.isAlphanum then
      if gap && started then '_' :: c :: joinRuns false true cs else c :: joinRuns false true cs
    else joinRuns true started cs

/-- The identifier that a text comes down to, the empty text if it has no letter and no digit. -/
def canonical (raw : String) : String := String.ofList (joinRuns false false raw.toList)

end WidgetLocator.Identifier
