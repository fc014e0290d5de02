import WidgetLocator.Toml.Moment
import WidgetLocator.Toml.Number
import WidgetLocator.Toml.Quoted
import WidgetLocator.Toml.Table

/-! TOML documents: headers of tables and of arrays of tables, and keys with their values, one a line.
Values are strings, numbers, booleans, dates, arrays, which may span lines, and inline tables, which
may not. A document that breaks a rule is refused as a whole. -/

namespace WidgetLocator.Toml

/-- How deep values may stand inside each other, and how many names a key may have. -/
def maxDepth : Nat := 79

def skipBlanks (cs : List Char) : List Char := cs.dropWhile isBlank

def skipGap : (inComment : Bool) → List Char → List Char
  | _, [] => []
  | _, '\n' :: cs => skipGap false cs
  | _, '\r' :: '\n' :: cs => skipGap false cs
  | false, '#' :: cs => skipGap true cs
  | inComment, c :: cs =>
    if isBlank c || inComment && isTextChar c then skipGap inComment cs else c :: cs

/-- What follows the end of a line, before which only blanks and a comment may stand. -/
def endLine (cs : List Char) : Option (List Char) :=
  let rest := match skipBlanks cs with
    | '#' :: cs => cs.dropWhile isTextChar
    | cs => cs
  if rest.isEmpty then some [] else afterLineEnd? rest

def isNameChar (c : Char) : Bool := c.isAlphanum || c == '_' || c == '-'

def readName (cs : List Char) : Option (String × List Char) :=
  let name := cs.takeWhile isNameChar
  if name.isEmpty then readQuoted cs else some (String.ofList name, cs.dropWhile isNameChar)

/-- Reads a dotted key of at most `count` names, and the blanks after it. -/
def readDotted : (count : Nat) → List Char → Option (Dotted × List Char)
  | 0, _ => none
  | count + 1, cs => do
    let (name, rest) ← readName cs
    match skipBlanks rest with
    | '.' :: rest =>
      let (path, rest) ← readDotted count (skipBlanks rest)
      return (⟨name :: path.parents, path.last⟩, rest)
    | rest => return (⟨[], name⟩, rest)

def readSimple (cs : List Char) : Option (Setting × List Char) :=
  match readString cs, readMoment cs with
  | some (s, rest), _ | none, some (s, rest) => some (.string s, rest)
  | none, none => (bare? (cs.takeWhile isBareChar)).map fun s => (s, cs.dropWhile isBareChar)

abbrev ValueReader := List Char → Option (Setting × List Char)

/-- Reads items up to the closing bracket, before which a comma may stand. Every item takes up a
character, so that `fuel` can be the length of the text. -/
def readItems (readItem : ValueReader) : (fuel : Nat) → List Char → Option (List Setting × List Char)
  | _, ']' :: rest => some ([], rest)
  | 0, _ => none
  | fuel + 1, cs => do
    let (item, rest) ← readItem cs
    match skipGap false rest with
    | ',' :: rest =>
      let (items, rest) ← readItems readItem fuel (skipGap false rest)
      return (item :: items, rest)
    | ']' :: rest => return ([item], rest)
    | _ => none

def readAssignment (readValue : ValueReader) (cs : List Char) :
    Option ((Dotted × Setting) × List Char) := do
  let (path, rest) ← readDotted maxDepth cs
  match rest with
  | '=' :: rest =>
    let (s, rest) ← readValue (skipBlanks rest)
    return ((path, s), rest)
  | _ => none

/-- Reads fields up to the closing brace, before which no comma may stand. -/
def readFields (readField : ValueReader) :
    (fuel : Nat) → Entries → List Char → Option (Entries × List Char)
  | 0, _, _ => none
  | fuel + 1, entries, cs => do
    let ((path, s), rest) ← readAssignment readField cs
    let entries ← assign path.last s path.parents entries
    match skipBlanks rest with
    | ',' :: rest => readFields readField fuel entries (skipBlanks rest)
    | '\x7d' :: rest => return (entries, rest)
    | _ => none

/-- Reads the value at the head of a text. Arrays and inline tables may be `depth` deep. -/
def readValue : (depth : Nat) → ValueReader
  | depth + 1, '[' :: cs =>
    (readItems (readValue depth) cs.length (skipGap false cs)).map fun (items, rest) => (.array items, rest)
  | depth + 1, '\x7b' :: cs =>
    match skipBlanks cs with
    | '\x7d' :: rest => some (.table [], rest)
    | fields =>
      (readFields (readValue depth) cs.length [] fields).map fun (entries, rest) =>
        (.table (settings entries), rest)
  | _, cs => readSimple cs

/-- The names that lead to the table of a header, the last one included, and the entries after the
header; `cs` is what follows its first bracket. -/
def readHeader (entries : Entries) (cs : List Char) : Option (List String × Entries × List Char) := do
  match cs with
  | '[' :: cs =>
    let (path, rest) ← readDotted maxDepth (skipBlanks cs)
    match rest with
    | ']' :: ']' :: rest => return (path.parents ++ [path.last], ← addTable path entries, rest)
    | _ => none
  | cs =>
    let (path, rest) ← readDotted maxDepth (skipBlanks cs)
    match rest with
    | ']' :: rest => return (path.parents ++ [path.last], ← openTable path entries, rest)
    | _ => none

/-- The table after the entries of a document, `current` being the table of the last header. -/
def readLines : (fuel : Nat) → (current : List String) → Entries → List Char → Option Entries
  | 0, _, _, _ => none
  | fuel + 1, current, entries, cs =>
    match skipBlanks cs with
    | [] => some entries
    | '[' :: cs => do
      let (current, entries, rest) ← readHeader entries cs
      readLines fuel current entries (← endLine rest)
    | cs =>
      match endLine cs with
      | some rest => readLines fuel current entries rest
      | none => do
        let ((path, s), rest) ← readAssignment (readValue maxDepth) cs
        let entries ← inTable (assign path.last s path.parents) current entries
        readLines fuel current entries (← endLine rest)

def dropMark : List Char → List Char
  | '\uFEFF' :: cs => cs
  | cs => cs

def read? (document : List Char) : Option (List (String × Setting)) :=
  let cs := dropMark document
  (readLines (cs.length + 1) [] [] cs).map settings

end WidgetLocator.Toml
