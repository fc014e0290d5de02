import WidgetLocator.Format.Json
import WidgetLocator.Format.Yaml.Reading

/-! YAML scalars. A text with line feeds asks for a literal block, a text that would be read as
something else for single quotes, and any other text for the plain style. Where the characters of the
text do not allow a style, the next one takes its place: plain, single-quoted, double-quoted; a
literal block gives way to double quotes at once. -/

namespace WidgetLocator.Yaml

open Text

inductive ScalarStyle where
  | plain | single | double | literal
deriving DecidableEq, Repr

def isBreak (c : Char) : Bool :=
  c == '\n' || c == '\r' || c.toNat == 0x85 || c.toNat == 0x2028 || c.toNat == 0x2029

def blankOrEnd : List Char → Bool
  | [] => true
  | c :: _ => c == ' ' || c == '\t' || isBreak c

def isSpecial (c : Char) : Bool :=
  let n := c.toNat
  !(n == 0x0a || (0x20 ≤ n && n ≤ 0x7e) || (0xa0 ≤ n && n ≤ 0xd7ff) ||
    (0xe000 ≤ n && n ≤ 0xfffd && n != 0xfeff) || 0x10000 ≤ n)

def opensIndicator (cs : List Char) : Bool :=
  ['-', '-', '-'].isPrefixOf cs || ['.', '.', '.'].isPrefixOf cs ||
  match cs with
  | [] => false
  | c :: rest =>
    "#,[]\x7b\x7d&*!|>'\"%@`".toList.contains c || ((c == '?' || c == ':' || c == '-') && blankOrEnd rest)

/-- Whether a colon before a blank or a number sign after one stands past the first character. -/
def hasInnerIndicator : List Char → Bool
  | [] => false
  | c :: rest =>
    (match rest with
      | [] => false
      | d :: rest' => (d == ':' && blankOrEnd rest') || (d == '#' && blankOrEnd [c])) ||
    hasInnerIndicator rest

def hasPair (p q : Char → Bool) : List Char → Bool
  | c :: d :: rest => (p c && q d) || hasPair p q (d :: rest)
  | _ => false

def isSpaceChar (c : Char) : Bool := c == ' '

/-- A space right before a line break, or a special character: no style but double quotes keeps it. -/
def needsEscapes (cs : List Char) : Bool := hasPair isSpaceChar isBreak cs || cs.any isSpecial

def allowsPlain (cs : List Char) : Bool :=
  !needsEscapes cs && !cs.any isBreak && !opensIndicator cs && !hasInnerIndicator cs &&
  cs.head? != some ' ' && cs.getLast? != some ' '

def allowsSingle (cs : List Char) : Bool := !needsEscapes cs && !hasPair isBreak isSpaceChar cs

def allowsLiteral (cs : List Char) : Bool :=
  !needsEscapes cs && !cs.isEmpty && cs.getLast? != some ' '

def wantedStyle (s : String) : ScalarStyle :=
  if s.toList.contains '\n' then .literal else if needsQuotes s then .single else .plain

def styleOf (s : String) : ScalarStyle :=
  let cs := s.toList
  let quoted := if allowsSingle cs then .single else .double
  match wantedStyle s with
  | .plain => if allowsPlain cs then .plain else quoted
  | .single => quoted
  | .double => .double
  | .literal => if allowsLiteral cs then .literal else .double

def pad (indent : Nat) : List Char := List.replicate indent ' '

def indentBreaks (indent : Nat) (encode : Char → List Char) : (afterBreak : Bool) → List Char → List Char
  | _, [] => []
  | afterBreak, c :: rest =>
    if isBreak c then c :: indentBreaks indent encode true rest
    else (if afterBreak then pad indent else []) ++ encode c ++ indentBreaks indent encode false rest

def singleText (indent : Nat) (cs : List Char) : List Char :=
  let double := fun c => if c = '\'' then ['\'', '\''] else [c]
  '\'' :: indentBreaks indent double false cs ++
    (if cs.getLast?.any isBreak then pad indent else []) ++ ['\'']

def upperHex (width n : Nat) : List Char :=
  let digits := (hexDigits n).map Char.toUpper
  List.replicate (width - digits.length) '0' ++ digits

def escapeChar (c : Char) : List Char :=
  let n := c.toNat
  if !isSpecial c && !isBreak c && c != '"' && c != '\\' then [c]
  else if n = 0x00 then ['\\', '0']
  else if n = 0x07 then ['\\', 'a']
  else if n = 0x08 then ['\\', 'b']
  else if n = 0x09 then ['\\', 't']
  else if n = 0x0a then ['\\', 'n']
  else if n = 0x0b then ['\\', 'v']
  else if n = 0x0c then ['\\', 'f']
  else if n = 0x0d then ['\\', 'r']
  else if n = 0x1b then ['\\', 'e']
  else if n = 0x22 then ['\\', '"']
  else if n = 0x5c then ['\\', '\\']
  else if n = 0x85 then ['\\', 'N']
  else if n = 0x2028 then ['\\', 'L']
  else if n = 0x2029 then ['\\', 'P']
  else if n ≤ 0xff then ['\\', 'x'] ++ upperHex 2 n
  else if n ≤ 0xffff then ['\\', 'u'] ++ upperHex 4 n
  else ['\\', 'U'] ++ upperHex 8 n

def doubleText (cs : List Char) : List Char := '"' :: cs.flatMap escapeChar ++ ['"']

/-- What stands after the bar of a literal block: the indentation if the text begins with a space or a
line break, then whether the text ends in no line break, in one, or in more than one. -/
def literalHeader (cs : List Char) : List Char :=
  let indentation := if cs.head?.any fun c => c == ' ' || isBreak c then ['2'] else []
  let ending :=
    match cs.reverse with
    | [] => ['-']
    | last :: before =>
      if !isBreak last then ['-'] else if before.isEmpty || before.head?.any isBreak then ['+'] else []
  indentation ++ ending

def literalText (indent : Nat) (cs : List Char) : List Char :=
  '|' :: literalHeader cs ++ ['\n'] ++ indentBreaks indent (fun c => [c]) true cs

def stringText (indent : Nat) (s : String) : List Char :=
  match styleOf s with
  | .plain => s.toList
  | .single => singleText indent s.toList
  | .double => doubleText s.toList
  | .literal => literalText indent s.toList

/-- Whether the text can stand as a key before its colon on one line. -/
def isSimpleKey (s : String) : Bool := s.utf8ByteSize ≤ 128 && !s.toList.any isBreak

end WidgetLocator.Yaml
