import WidgetLocator.Record.Value

/-! The metadata of a locator: an ordered document of keys and values. Writing a key that is already
there changes its value and leaves it in its place. -/

namespace WidgetLocator

/-- Writes a value under a key, in the key's place if it has one and else at the end. -/
def putEntry (key : String) (value : Value) : List (String × Value) → List (String × Value)
  | [] => [(key, value)]
  | (k, v) :: rest => if k = key then (key, value) :: rest else (k, v) :: putEntry key value rest

structure Metadata where
  entries : List (String × Value)
deriving BEq, Repr, Inhabited

namespace Metadata

def empty : Metadata := ⟨[]⟩

def insert (m : Metadata) (key : String) (value : Value) : Metadata := ⟨putEntry key value m.entries⟩

def ofWrites (writes : List (String × Value)) : Metadata :=
  writes.foldl (fun m (key, value) => m.insert key value) empty

def get? (m : Metadata) (key : String) : Option Value := m.entries.lookup key

def getString? (m : Metadata) (key : String) : Option String := (m.get? key).bind Value.string?

def keys (m : Metadata) : List String := m.entries.map (·.1)

def size (m : Metadata) : Nat := m.entries.length

def isEmpty (m : Metadata) : Bool := m.entries.isEmpty

def archetype? (m : Metadata) : Option String := m.getString? "archetype"

end Metadata
end WidgetLocator
