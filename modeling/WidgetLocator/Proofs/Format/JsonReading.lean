import WidgetLocator.Path.Segments
import WidgetLocator.Record.Basic
import WidgetLocator.Text.Number

/-! Reading JSON texts. White space may stand around every part of a text, strings know all escapes, and
the fields of an object keep their order. Numbers with a fraction or an exponent are no values here.
Arrays and objects are rows of entries with commas between them, and so are the metadata of a
declaration; the reader of a row is given the reader of an entry. -/

namespace WidgetLocator

namespace Json

open Text

def isBlank (c : Char) : Bool := c == ' ' || c == '\t' || c == '\n' || c == '\r'

def skip (cs : List Char) : List Char := cs.dropWhile isBlank

section Strings

def readUnit (cs : List Char) : Option (Nat × List Char) :=
  if cs.length < 4 then none else (numeral? 16 (cs.take 4)).map fun n => (n, cs.drop 4)

/-- The character that the two halves of a surrogate pair stand for. -/
def pairedChar? (n m : Nat) : Option Char :=
  if 0xd800 ≤ n ∧ n < 0xdc00 ∧ 0xdc00 ≤ m ∧ m < 0xe000 then
    some (Char.ofNat (0x10000 + (n - 0xd800) * 0x400 + (m - 0xdc00)))
  else none

/-- The character that four hexadecimal digits stand for, the first four of two escapes if the
character is above U+FFFF. -/
def readCodePoint (cs : List Char) : Option (Char × List Char) := do
  let (n, rest) ← readUnit cs
  if n.isValidChar then return (Char.ofNat n, rest)
  match rest with
  | '\\' :: 'u' :: rest =>
    let (m, rest) ← readUnit rest
    return (← pairedChar? n m, rest)
  | _ => none

/-- The character that an escape stands for, and what follows it; `cs` comes after the backslash. -/
def readEscape (cs : List Char) : Option (Char × List Char) :=
  match cs with
  | '"' :: rest => some ('"', rest)
  | '\\' :: rest => some ('\\', rest)
  | '/' :: rest => some ('/', rest)
  | 'b' :: rest => some ('\x08', rest)
  | 'f' :: rest => some ('\x0c', rest)
  | 'n' :: rest => some ('\n', rest)
  | 'r' :: rest => some ('\r', rest)
  | 't' :: rest => some ('\t', rest)
  | 'u' :: rest => readCodePoint rest
  | _ => none

theorem length_readUnit {cs rest : List Char} {n : Nat} (h : readUnit cs = some (n, rest)) :
    rest.length < cs.length := by
  rw [readUnit] at h
  split at h
  · cases h
  · next hlong =>
    obtain ⟨m, -, hm⟩ := Option.map_eq_some_iff.1 h
    cases hm
    rw [List.length_drop]
    omega

theorem length_readCodePoint {cs rest : List Char} {c : Char} (h : readCodePoint cs = some (c, rest)) :
    rest.length < cs.length := by
  obtain ⟨⟨n, rest₁⟩, hn, h⟩ := Option.bind_eq_some_iff.1 h
  have hfirst := length_readUnit hn
  dsimp only at h
  split at h
  · cases h
    exact hfirst
  · split at h
    · obtain ⟨⟨m, rest₂⟩, hm, h⟩ := Option.bind_eq_some_iff.1 h
      have hsecond := length_readUnit hm
      obtain ⟨d, -, h⟩ := Option.bind_eq_some_iff.1 h
      cases h
      simp only [List.length_cons] at hfirst
      exact Nat.lt_trans hsecond (by omega)
    · cases h

theorem length_readEscape {cs rest : List Char} {c : Char} (h : readEscape cs = some (c, rest)) :
    rest.length < cs.length := by
  rw [readEscape.eq_def] at h
  split at h
  case h_9 rest' =>
    have := length_readCodePoint h
    rw [List.length_cons]
    omega
  case h_10 => cases h
  all_goals
    cases h
    rw [List.length_cons]
    omega

def readChars (cs : List Char) : Option (List Char × List Char) :=
  match cs with
  | [] => none
  | '"' :: rest => some ([], rest)
  | '\\' :: cs =>
    match _found : readEscape cs with
    | none => none
    | some (c, rest) => (readChars rest).map fun (text, rest) => (c :: text, rest)
  | c :: cs =>
    if c.toNat < 0x20 then none else (readChars cs).map fun (text, rest) => (c :: text, rest)
termination_by cs.length
decreasing_by
  · have := length_readEscape _found
    rw [List.length_cons]
    omega
  · rw [List.length_cons]
    omega

def readString (cs : List Char) : Option (String × List Char) :=
  (readChars cs).map fun (text, rest) => (String.ofList text, rest)

end Strings

section Values

abbrev Reader (α : Type) := List Char → Option (α × List Char)

variable {α : Type}

def readNat (cs : List Char) : Option (Nat × List Char) :=
  (Path.run? Char.isDigit cs).bind fun (digits, rest) =>
    if digits.head? = some '0' ∧ digits ≠ ['0'] then none else some (decimalValue digits, rest)

def readInt : Reader Int
  | '-' :: cs => (readNat cs).map fun (n, rest) => (-n, rest)
  | cs => (readNat cs).map fun (n, rest) => (n, rest)

def readScalar : Reader Value
  | 'n' :: 'u' :: 'l' :: 'l' :: rest => some (.null, rest)
  | 't' :: 'r' :: 'u' :: 'e' :: rest => some (.bool true, rest)
  | 'f' :: 'a' :: 'l' :: 's' :: 'e' :: rest => some (.bool false, rest)
  | '"' :: cs => (readString cs).map fun (s, rest) => (.string s, rest)
  | cs => (readInt cs).map fun (n, rest) => (.int n, rest)

/-- Reads entries with commas between them, up to the closing character. Every entry takes up a
character, so that `fuel` can be the length of the text. -/
def readRow (readEntry : Reader α) (close : Char) : (fuel : Nat) → Reader (List α)
  | 0, _ => none
  | fuel + 1, cs => do
    let (entry, rest) ← readEntry cs
    match skip rest with
    | ',' :: rest =>
      let (entries, rest) ← readRow readEntry close fuel rest
      return (entry :: entries, rest)
    | c :: rest => if c = close then return ([entry], rest) else none
    | [] => none

def readEntries (readEntry : Reader α) (close : Char) : Reader (List α) := fun cs =>
  if (skip cs).head? = some close then some ([], (skip cs).tail) else readRow readEntry close cs.length cs

def readField (readContent : String → Reader α) : Reader (String × α) := fun cs => do
  match skip cs with
  | '"' :: cs =>
    let (key, rest) ← readString cs
    match skip rest with
    | ':' :: rest =>
      let (content, rest) ← readContent key rest
      return ((key, content), rest)
    | _ => none
  | _ => none

/-- Reads the value at the head of a text. Arrays and objects may be less than `depth` deep. -/
def readValue : (depth : Nat) → Reader Value
  | 0, _ => none
  | depth + 1, cs =>
    match skip cs with
    | '[' :: cs => (readEntries (readValue depth) ']' cs).map fun (items, rest) => (.array items, rest)
    | '\x7b' :: cs =>
      (readEntries (readField fun _ => readValue depth) '\x7d' cs).map fun (fields, rest) =>
        (.object fields, rest)
    | cs => readScalar cs

def read? (cs : List Char) : Option Value :=
  (readValue (cs.length + 1) cs).bind fun (v, rest) => if (skip rest).isEmpty then some v else none

example : read? "[\"\\ud83d\\ude00\", -7]".toList = some (.array [.string "😀", .int (-7)]) := by cbv

example : read? "[1, 02]".toList = none ∧ read? "[1,]".toList = none := ⟨by cbv, by cbv⟩

end Values

end Json

def Value.field? (key : String) : Value → Option Value
  | object fields => fields.lookup key
  | _ => none

/-- The record that a document describes. A container that is left out is empty. -/
def Record.ofDocument? (v : Value) : Option Record :=
  match v.field? "id", v.field? "meta", v.field? "container" with
  | some (.string id), some (.object entries), none => some ⟨id, ⟨entries⟩, ""⟩
  | some (.string id), some (.object entries), some (.string container) => some ⟨id, ⟨entries⟩, container⟩
  | _, _, _ => none

end WidgetLocator
