import WidgetLocator.Format.Error
import WidgetLocator.Record.Basic

/-! A format writes the records of one path as a text. It has the name under which it is looked up
and a description for listings, which may be empty. -/

namespace WidgetLocator

structure Formatter where
  name : String
  description : String
  serialize : List Record → Except FormatError String

/-- The document that stands for a record: its container is left out when it has none. -/
def Record.document (r : Record) : Value :=
  .object <| [("id", .string r.id), ("meta", .object r.metadata.entries)] ++
    if r.isRoot then [] else [("container", .string r.container)]

end WidgetLocator
