/-! Tokens of path expressions. A token carries its kind, its text and the byte offset at which it
begins. The text is what the token means, not how it is spelled: a literal has no quotes, an axis
no final colons. Tokens need not come from a text, so no relation between the fields is assumed. -/

namespace WidgetLocator

inductive Token.Kind where
  | tag | atSign | axis | openBracket | closeBracket | operator | literal | wildcard
  /-- A separate namespace name after a step. It is never read from a text. -/
  | namespaceName
  | slash
  | finish
deriving DecidableEq, Repr

structure Token where
  kind : Token.Kind
  text : String
  offset : Nat
deriving DecidableEq, Repr

namespace Token

def Kind.name : Kind → String
  | tag => "Tag"
  | atSign => "Attribute"
  | axis => "Axis"
  | openBracket => "OpenBracket"
  | closeBracket => "CloseBracket"
  | operator => "Operator"
  | literal => "Literal"
  | wildcard => "Wildcard"
  | namespaceName => "Namespace"
  | slash => "Slash"
  | finish => "End"

def Kind.all : List Kind :=
  [tag, atSign, axis, openBracket, closeBracket, operator, literal, wildcard, namespaceName, slash, finish]

def Kind.ofName? (name : String) : Option Kind := Kind.all.find? (·.name == name)

/-- What a reader is told to look for when a kind is missing. -/
def Kind.describe : Kind → String
  | tag => "tag"
  | atSign => "'@'"
  | axis => "axis"
  | openBracket => "'['"
  | closeBracket => "']'"
  | operator => "operator"
  | literal => "literal"
  | wildcard => "'*'"
  | namespaceName => "namespace prefix"
  | slash => "slash"
  | finish => "end of input"

def endAt (offset : Nat) : Token := ⟨.finish, "", offset⟩

def display (t : Token) : String :=
  match t.kind with
  | .finish => "end of input"
  | .literal => "'" ++ t.text ++ "'"
  | .axis => t.text ++ "::"
  | _ => t.text

/-- A tag that begins with an ASCII digit stands for a position. -/
def isNumeric (t : Token) : Bool :=
  t.kind == .tag && (t.text.toList.head?.any Char.isDigit)

/-- The double slash, which stands for a step of its own. -/
def isDescendant (t : Token) : Bool := t.kind == .slash && t.text == "//"

end Token
end WidgetLocator
