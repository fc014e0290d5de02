import WidgetLocator.Format.Json

/-! Declarations: each record assigns its metadata to its identifier. The container comes last in the
metadata and without quotes, so that it refers to the declaration before. -/

namespace WidgetLocator.Declarations

def defaultIndent : Nat := 4

def closing : List Char := ['\n', '\x7d']

/-- The text of an object that has entries, up to the end of its last entry. -/
def reopened? (body : List Char) : Option (List Char) :=
  if closing.isSuffixOf body then some (body.take (body.length - closing.length)) else none

def containerKey : List Char := Json.stringText "container"

/-- The text of an object with the container added as its last entry. -/
def withContainer (indent : Nat) (container : String) (body : List Char) : List Char :=
  let opened := match reopened? body with
    | some opened => opened ++ [',']
    | none => ['\x7b']
  opened ++ Json.lineAt indent 1 ++ containerKey ++ [':', ' '] ++ container.toList ++ closing

def declaration (indent : Nat) (r : Record) : List Char :=
  let body := Json.text indent 0 (.object r.metadata.entries)
  r.id.toList ++ [' ', '=', ' '] ++
    (if r.isRoot then body else withContainer indent r.container body) ++ ['\n']

def formatter (indent : Nat) : Formatter where
  name := "declarations"
  description := "One `id = \x7bmetadata\x7d` declaration per locator"
  serialize records := .ok (String.ofList (records.flatMap (declaration indent)))

end WidgetLocator.Declarations
