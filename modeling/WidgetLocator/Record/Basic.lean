import WidgetLocator.Record.Metadata

/-! The locator of one step: an identifier, the identifier of the locator before it, which contains
it, and metadata. -/

namespace WidgetLocator

structure Record where
  id : String
  metadata : Metadata
  /-- Empty for the first locator of a path. -/
  container : String
deriving BEq, Repr, Inhabited

def Record.isRoot (r : Record) : Bool := r.container.isEmpty

theorem Record.isRoot_iff {r : Record} : r.isRoot ↔ r.container = "" := String.isEmpty_iff

end WidgetLocator
