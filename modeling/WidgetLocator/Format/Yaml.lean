import WidgetLocator.Format.Yaml.Scalar

/-! YAML documents in block style. Mappings indent by two, sequences inside mappings stand at the
indentation of the mapping, and a container inside a sequence begins on the line of its dash. No line
is ever folded. -/

namespace WidgetLocator.Yaml

/-- Ends the line unless a literal block has ended it. -/
def endLine (cs : List Char) : List Char := if cs.getLast?.any isBreak then cs else cs ++ ['\n']

/-- A value on the line of its indicator, which stands at `indent`; `none` for a value that has
entries of its own. -/
def scalarText? (indent : Nat) : Value → Option (List Char)
  | .null => some ['n', 'u', 'l', 'l']
  | .bool true => some ['t', 'r', 'u', 'e']
  | .bool false => some ['f', 'a', 'l', 's', 'e']
  | .int n => some (Json.intText n)
  | .string s => some (stringText (indent + 2) s)
  | .array [] => some ['[', ']']
  | .object [] => some ['\x7b', '\x7d']
  | .array (_ :: _) => none
  | .object (_ :: _) => none

mutual

/-- A value after a dash, or after the colon of a key that has a line of its own. -/
def nested (indent : Nat) : Value → List Char
  | .array (item :: items) => ' ' :: (itemLines (indent + 2) (item :: items)).drop (indent + 2)
  | .object (field :: fields) => ' ' :: (fieldLines (indent + 2) (field :: fields)).drop (indent + 2)
  | value => ' ' :: endLine ((scalarText? indent value).getD [])

def fieldValue (indent : Nat) : Value → List Char
  | .array (item :: items) => '\n' :: itemLines indent (item :: items)
  | .object (field :: fields) => '\n' :: fieldLines (indent + 2) (field :: fields)
  | value => ' ' :: endLine ((scalarText? indent value).getD [])

def itemLines (indent : Nat) : List Value → List Char
  | [] => []
  | item :: items => pad indent ++ '-' :: nested indent item ++ itemLines indent items

def fieldLines (indent : Nat) : List (String × Value) → List Char
  | [] => []
  | (key, value) :: fields =>
    let keyText := stringText (indent + 2) key
    let field :=
      if isSimpleKey key then keyText ++ ':' :: fieldValue indent value
      else '?' :: ' ' :: endLine keyText ++ pad indent ++ ':' :: nested indent value
    pad indent ++ field ++ fieldLines indent fields

end

def documents (records : List Record) : List Char :=
  if records.isEmpty then ['[', ']', '\n'] else itemLines 0 (records.map Record.document)

def formatter : Formatter where
  name := "yaml"
  description := "YAML sequence of \x7bid, meta, container\x7d mappings"
  serialize records := .ok (String.ofList (documents records))

end WidgetLocator.Yaml
