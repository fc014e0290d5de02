import WidgetLocator.Format.Basic
import WidgetLocator.Text.Quoted

/-! JSON texts with one entry a line. An entry stands one indent deeper than its container, empty
containers stay on one line, and strings escape the quote, the backslash and the controls below
U+0020, everything else being written as it is. -/

namespace WidgetLocator.Json

open Text

/-- The four hexadecimal digits of a code point below U+10000. -/
def fourDigits (n : Nat) : List Char :=
  let digits := hexDigits n
  List.replicate (4 - digits.length) '0' ++ digits

def escapeChar (c : Char) : List Char :=
  if c = '"' then ['\\', '"']
  else if c = '\\' then ['\\', '\\']
  else if c = '\x08' then ['\\', 'b']
  else if c = '\x0c' then ['\\', 'f']
  else if c = '\n' then ['\\', 'n']
  else if c = '\r' then ['\\', 'r']
  else if c = '\t' then ['\\', 't']
  else if c.toNat < 0x20 then ['\\', 'u'] ++ fourDigits c.toNat
  else [c]

def stringText (s : String) : List Char := '"' :: s.toList.flatMap escapeChar ++ ['"']

def intText (n : Int) : List Char := (toString n).toList

def lineAt (indent depth : Nat) : List Char := '\n' :: List.replicate (indent * depth) ' '

mutual

def text (indent depth : Nat) : Value → List Char
  | .null => ['n', 'u', 'l', 'l']
  | .bool true => ['t', 'r', 'u', 'e']
  | .bool false => ['f', 'a', 'l', 's', 'e']
  | .int n => intText n
  | .string s => stringText s
  | .array [] => ['[', ']']
  | .array (item :: items) =>
    '[' :: itemsText indent (depth + 1) (item :: items) ++ lineAt indent depth ++ [']']
  | .object [] => ['\x7b', '\x7d']
  | .object (field :: fields) =>
    '\x7b' :: fieldsText indent (depth + 1) (field :: fields) ++ lineAt indent depth ++ ['\x7d']

/-- The items of an array, each on a line of its own, with commas between them. -/
def itemsText (indent depth : Nat) : List Value → List Char
  | [] => []
  | item :: items =>
    lineAt indent depth ++ text indent depth item ++
      (if items.isEmpty then [] else [',']) ++ itemsText indent depth items

def fieldsText (indent depth : Nat) : List (String × Value) → List Char
  | [] => []
  | (key, value) :: fields =>
    lineAt indent depth ++ stringText key ++ [':', ' '] ++ text indent depth value ++
      (if fields.isEmpty then [] else [',']) ++ fieldsText indent depth fields

end

def formatter : Formatter where
  name := "json"
  description := "JSON array of \x7bid, meta, container\x7d objects"
  serialize records := .ok (String.ofList (text 2 0 (.array (records.map Record.document))))

end WidgetLocator.Json
