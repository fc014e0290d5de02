import WidgetLocator.Format.Declarations
import WidgetLocator.Format.Yaml

/-! The formats that can be asked for by name. A registry is a map from names to formatters. A
formatter is put in under its own name, where it takes the place of one that was registered before. -/

namespace WidgetLocator

structure Registry where
  /-- The formatters under their names, each name once. -/
  entries : List (String × Formatter)

/-- Puts a formatter under a name, in the place of the one that it has and else at the end. -/
def putFormatter (name : String) (f : Formatter) :
    List (String × Formatter) → List (String × Formatter)
  | [] => [(name, f)]
  | (n, g) :: rest => if n = name then (name, f) :: rest else (n, g) :: putFormatter name f rest

namespace Registry

def empty : Registry := ⟨[]⟩

def register (r : Registry) (f : Formatter) : Registry := ⟨putFormatter f.name f r.entries⟩

def get? (r : Registry) (name : String) : Option Formatter := r.entries.lookup name

def has (r : Registry) (name : String) : Bool := r.entries.any (·.1 == name)

def lookup (r : Registry) (name : String) : Except FormatError Formatter :=
  match r.entries.lookup name with
  | some f => .ok f
  | none => .error (.notFound name)

def serialize (r : Registry) (records : List Record) (name : String) : Except FormatError String :=
  match r.get? name with
  | some f => f.serialize records
  | none => .error (.notFound name)

/-- The names of all formats, in the order of their code points. -/
def names (r : Registry) : List String := (r.entries.map (·.1)).mergeSort

def standard : Registry :=
  ((empty.register (Declarations.formatter Declarations.defaultIndent)).register Json.formatter).register
    Yaml.formatter

end Registry
end WidgetLocator
