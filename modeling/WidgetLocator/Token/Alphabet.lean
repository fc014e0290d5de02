/-! The characters of path expressions. Blanks separate tokens, reserved characters are tokens of
their own, the colon joins and ends names, and every other character may stand in a name. A quote
opens a literal only where a token begins; inside a name it is an ordinary character. -/

namespace WidgetLocator

def isBlank (c : Char) : Bool :=
  c == ' ' || c == '\t' || c == '\n' || c == '\r' || c == '\x0c' || c == '\x0b'

def isSymbol (c : Char) : Bool :=
  c == '/' || c == '[' || c == ']' || c == '@' || c == '=' || c == '!' || c == '<' || c == '>' || c == '*'

def isQuote (c : Char) : Bool := c == '\'' || c == '"'

def isNameChar (c : Char) : Bool := !isBlank c && !isSymbol c && c != ':'

def isNameStart (c : Char) : Bool := isNameChar c && !isQuote c

def isOperatorChar (c : Char) : Bool := c == '=' || c == '!' || c == '<' || c == '>'

end WidgetLocator
