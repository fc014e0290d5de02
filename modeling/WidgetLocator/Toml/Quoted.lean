import WidgetLocator.Text.Number

/-! TOML strings. A string in double quotes resolves escapes, one in single quotes does not. Between
single marks a string ends on the line on which it begins; between marks of three it may have many
lines, of which the first is left out if it is empty. -/

namespace WidgetLocator.Toml

open Text

/-- Every control character except the tab is refused, in strings and in comments. -/
def isTextChar (c : Char) : Bool := c == '\t' || (' ' ≤ c && c != '\x7f')

def isBlank (c : Char) : Bool := c == ' ' || c == '\t'

def afterLineEnd? : List Char → Option (List Char)
  | '\n' :: cs => some cs
  | '\r' :: '\n' :: cs => some cs
  | _ => none

/-- The text up to the closing double quote, its escapes unresolved, and what follows the quote. -/
def splitEscaped : List Char → Option (List Char × List Char)
  | [] => none
  | '"' :: rest => some ([], rest)
  | '\\' :: c :: rest => (splitEscaped rest).map fun (body, rest) => ('\\' :: c :: body, rest)
  | c :: rest => (splitEscaped rest).map fun (body, rest) => (c :: body, rest)

/-- The character whose code point the digits give, if there are as many as there have to be. -/
def codePoint? (count : Nat) (digits : List Char) : Option Char := do
  guard (digits.length == count)
  let n ← numeral? 16 digits
  if h : n.isValidChar then return Char.ofNatAux n h else none

def escape? : Char → Option Char
  | 'b' => some '\x08'
  | 't' => some '\t'
  | 'n' => some '\n'
  | 'f' => some '\x0c'
  | 'r' => some '\r'
  | '"' => some '"'
  | '\\' => some '\\'
  | _ => none

/-- Resolves the escapes in a text whose other characters all have to be allowed. -/
def resolveEscapes (allowed : Char → Bool) (cs : List Char) : Option (List Char) :=
  match cs with
  | [] => some []
  | '\\' :: 'u' :: cs => do
    return (← codePoint? 4 (cs.take 4)) :: (← resolveEscapes allowed (cs.drop 4))
  | '\\' :: 'U' :: cs => do
    return (← codePoint? 8 (cs.take 8)) :: (← resolveEscapes allowed (cs.drop 8))
  | '\\' :: c :: cs => do return (← escape? c) :: (← resolveEscapes allowed cs)
  | c :: cs => if allowed c then do return c :: (← resolveEscapes allowed cs) else none
termination_by cs.length
decreasing_by all_goals simp only [List.length_cons, List.length_drop]; omega

def readQuoted : List Char → Option (String × List Char)
  | '"' :: cs => do
    let (body, rest) ← splitEscaped cs
    return (String.ofList (← resolveEscapes isTextChar body), rest)
  | '\'' :: cs =>
    match cs.dropWhile (· != '\'') with
    | '\'' :: rest =>
      let body := cs.takeWhile (· != '\'')
      if body.all isTextChar then some (String.ofList body, rest) else none
    | _ => none
  | _ => none

/-- The text up to the closing mark of three quotes, and what follows the mark. One or two quotes right
before the mark belong to the text. -/
def splitLong (quote : Char) (escapes : Bool) : List Char → Option (List Char × List Char)
  | [] => none
  | [_] => none
  | c :: d :: rest =>
    let quotes := ((c :: d :: rest).takeWhile (· == quote)).length
    if quotes ≥ 3 then
      let kept := min (quotes - 3) 2
      some (List.replicate kept quote, (c :: d :: rest).drop (kept + 3))
    else if escapes && c == '\\' then
      (splitLong quote escapes rest).map fun (body, rest) => (c :: d :: body, rest)
    else (splitLong quote escapes (d :: rest)).map fun (body, rest) => (c :: body, rest)

def plainLines : List Char → List Char
  | [] => []
  | '\r' :: '\n' :: cs => '\n' :: plainLines cs
  | c :: cs => c :: plainLines cs

/-- A text in which every backslash that ends a line is taken away, with all blanks and line ends after
it. Such blanks are being skipped if `skipping` holds. -/
def joinLines : (skipping : Bool) → List Char → List Char
  | _, [] => []
  | _, '\\' :: c :: cs =>
    if ((c :: cs).dropWhile isBlank).head? == some '\n' then joinLines true (c :: cs)
    else '\\' :: c :: joinLines false cs
  | skipping, c :: cs =>
    if skipping && (isBlank c || c == '\n') then joinLines true cs else c :: joinLines false cs

def isLongTextChar (c : Char) : Bool := isTextChar c || c == '\n'

def readLong (quote : Char) (cs : List Char) : Option (String × List Char) := do
  let (body, rest) ← splitLong quote (quote == '"') ((afterLineEnd? cs).getD cs)
  let lines := plainLines body
  let text ← if quote == '"' then resolveEscapes isLongTextChar (joinLines false lines)
    else if lines.all isLongTextChar then some lines else none
  return (String.ofList text, rest)

def readString : List Char → Option (String × List Char)
  | '"' :: '"' :: '"' :: cs => readLong '"' cs
  | '\'' :: '\'' :: '\'' :: cs => readLong '\'' cs
  | cs => readQuoted cs

end WidgetLocator.Toml
