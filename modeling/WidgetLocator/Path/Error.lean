/-! Why a list of tokens is no path. Each cause carries the byte offset of the token at which reading
stopped and the way that token is shown. -/

namespace WidgetLocator

inductive Expected where
  | attributeName | comparison | literalOrTag | quotedLiteral | position
deriving DecidableEq, Repr

def Expected.describe : Expected → String
  | attributeName => "attribute name"
  | comparison => "comparison operator"
  | literalOrTag => "literal or tag"
  | quotedLiteral => "quoted literal"
  | position => "position"

inductive ParseError where
  /-- A step has neither a tag nor the wildcard. -/
  | noNodeTest (offset : Nat) (found : String)
  /-- The predicate is over and no bracket closes it. -/
  | noClosingBracket (offset : Nat) (found : String)
  /-- No condition begins with this token, or its position is too large. -/
  | notACondition (offset : Nat) (found : String)
  /-- A condition has begun and goes on in the wrong way. -/
  | unexpected (expected : Expected) (offset : Nat) (found : String)
deriving DecidableEq, Repr

namespace ParseError

def offset : ParseError → Nat
  | noNodeTest offset _ => offset
  | noClosingBracket offset _ => offset
  | notACondition offset _ => offset
  | unexpected _ offset _ => offset

def message : ParseError → String
  | noNodeTest offset found => s!"Expected tag or '*' at offset {offset}, found {found}"
  | noClosingBracket offset found => s!"Expected closing ']' at offset {offset}, found {found}"
  | notACondition offset found => s!"Unexpected token in predicate at offset {offset}: {found}"
  | unexpected expected offset found =>
    s!"Expected {expected.describe} at offset {offset}, found {found}"

end ParseError
end WidgetLocator
