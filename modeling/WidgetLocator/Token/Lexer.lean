import WidgetLocator.Token.Alphabet
import WidgetLocator.Token.Basic

/-! Reading the tokens of a text. At each place the longest spelling of a token is taken, blanks
between tokens are skipped, and a literal runs to the first quote of its own kind that no backslash
escapes. Reading fails at a literal that never closes, and at a character that begins no token. -/

namespace WidgetLocator

inductive LexError where
  /-- The offset is that of the opening quote. -/
  | unterminatedLiteral (offset : Nat)
  | unexpectedCharacter (offset : Nat) (found : Char)
deriving DecidableEq, Repr

namespace LexError

def offset : LexError → Nat
  | unterminatedLiteral offset => offset
  | unexpectedCharacter offset _ => offset

def message : LexError → String
  | unterminatedLiteral offset => s!"Unterminated string literal opened at offset {offset}"
  | unexpectedCharacter offset found => s!"Unexpected character '{found}' at offset {offset}"

end LexError

structure Lexeme where
  kind : Token.Kind
  text : List Char
  spelling : List Char
deriving DecidableEq, Repr

namespace Lexeme

def verbatim (kind : Token.Kind) (cs : List Char) : Lexeme := ⟨kind, cs, cs⟩

/-- The part of a literal before its closing quote, escapes intact. -/
def literalBody? (quote : Char) : List Char → Option (List Char)
  | [] => none
  | '\\' :: c :: rest => (literalBody? quote rest).map fun body => '\\' :: c :: body
  | c :: rest => if c = quote then some [] else (literalBody? quote rest).map (c :: ·)

/-- The longest continuation of a name: name characters, each after at most one colon, and then
possibly one more colon. -/
def nameTail : List Char → List Char
  | [] => []
  | c :: rest =>
    if isNameChar c then c :: nameTail rest
    else if c = ':' then ':' :: (if rest.head?.any isNameChar then nameTail rest else [])
    else []

/-- The lexeme that begins with a name character: an axis if two colons follow the first run of
name characters, else a name. -/
def ofName (cs : List Char) : Lexeme :=
  let run := cs.takeWhile isNameChar
  if [':', ':'].isPrefixOf (cs.drop run.length) then ⟨.axis, run, run ++ [':', ':']⟩
  else verbatim .tag (nameTail cs)

/-- The lexeme that begins with a colon: a name if a name character follows, else the whole run of
colons. -/
def ofColon (cs : List Char) : Lexeme :=
  if cs.tail.head?.any isNameChar then verbatim .tag (nameTail cs)
  else verbatim .tag (cs.takeWhile (· == ':'))

/-- The lexeme at the head of `c :: rest`, where `c` is no blank; `none` if no token begins there, or
if it is a literal that does not close. -/
def first? (c : Char) (rest : List Char) : Option Lexeme :=
  if c = '/' then
    some (verbatim .slash (if rest.head? = some '/' then ['/', '/'] else ['/']))
  else if c = '@' then some (verbatim .atSign [c])
  else if c = '[' then some (verbatim .openBracket [c])
  else if c = ']' then some (verbatim .closeBracket [c])
  else if c = '*' then some (verbatim .wildcard [c])
  else if isOperatorChar c then
    some (verbatim .operator (if rest.head? = some '=' then [c, '='] else [c]))
  else if isQuote c then
    (literalBody? c rest).map fun body => ⟨.literal, body, c :: body ++ [c]⟩
  else if c = ':' then some (ofColon (c :: rest))
  else if isNameStart c then some (ofName (c :: rest))
  else none

end Lexeme

namespace Token

/-- The tokens of the characters that stand at the byte offset `offset`, the end marker included. -/
def scan (offset : Nat) : List Char → Except LexError (List Token)
  | [] => .ok [endAt offset]
  | c :: rest =>
    if isBlank c then scan (offset + c.utf8Size) rest
    else
      match Lexeme.first? c rest with
      | none =>
        .error (if isQuote c then .unterminatedLiteral offset else .unexpectedCharacter offset c)
      | some lexeme =>
        -- the spelling begins with `c`, so its other characters are the first ones of `rest`
        match scan (offset + (String.ofList lexeme.spelling).utf8ByteSize)
            (rest.drop (lexeme.spelling.length - 1)) with
        | .error e => .error e
        | .ok tokens => .ok (⟨lexeme.kind, String.ofList lexeme.text, offset⟩ :: tokens)
termination_by cs => cs.length
decreasing_by
  · simp
  · simp only [List.length_drop, List.length_cons]; omega

def tokenize (source : String) : Except LexError (List Token) := scan 0 source.toList

end Token
end WidgetLocator
