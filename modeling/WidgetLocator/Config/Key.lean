import WidgetLocator.Config.Setting

/-! Keys that lead to a setting inside a tree: names with a point between them, such as
`render.indent`, and indices in brackets. A name holds ASCII letters, digits, spaces, underscores and
hyphens. -/

namespace WidgetLocator

open Text

namespace Key

inductive Part where
  | name (text : String)
  /-- A negative index counts from the end. -/
  | index (n : Int)
deriving DecidableEq, Repr

end Key

structure Key where
  head : String
  rest : List Key.Part
deriving DecidableEq, Repr

namespace Key

def isNameChar (c : Char) : Bool := c.isAlphanum || c == ' ' || c == '_' || c == '-'

def readName (cs : List Char) : Option (String × List Char) :=
  let name := cs.takeWhile isNameChar
  if name.isEmpty then none else some (lowerCase (String.ofList name), cs.dropWhile isNameChar)

def isBlank (c : Char) : Bool := c == ' ' || c == '\t'

/-- The number between two brackets, which may have blanks around it. -/
def index? (cs : List Char) : Option Int :=
  let number := ((cs.dropWhile isBlank).reverse.dropWhile isBlank).reverse
  let digits := if number.head? = some '-' then number.tail else number
  if digits.isEmpty || !digits.all Char.isDigit || decimalValue digits > Nat.pow 2 63 then none
  else if number.head? = some '-' then some (-decimalValue digits)
  else if decimalValue digits = Nat.pow 2 63 then none
  else some (decimalValue digits)

def readPart : List Char → Option (Part × List Char)
  | '.' :: cs => (readName cs).map fun (name, rest) => (.name name, rest)
  | '[' :: cs =>
    match cs.dropWhile (· != ']') with
    | ']' :: rest => (index? (cs.takeWhile (· != ']'))).map fun n => (.index n, rest)
    | _ => none
  | _ => none

/-- Reads parts up to the end. Each takes up at least one character, so that `fuel` can be the length of the
text. -/
def readParts : (fuel : Nat) → List Char → Option (List Part)
  | _, [] => some []
  | 0, _ :: _ => none
  | fuel + 1, cs => do
    let (part, rest) ← readPart cs
    return part :: (← readParts fuel rest)

def ofText? (text : String) : Option Key := do
  let (head, rest) ← readName text.toList
  return ⟨head, ← readParts rest.length rest⟩

def place (n : Int) (length : Nat) : Nat := if n < 0 then length - n.natAbs else n.toNat

/-- Puts a setting where the parts lead from a setting. On the way everything becomes a table or an
array as the parts demand. A field is laid over what stands there, an item replaces it. -/
def write (new : Setting) : List Part → Option Setting → Setting
  | [], old => new.overlay old
  | .name name :: rest, old =>
    .table (alterField (write new rest) name (old.getD .null).fields)
  | [.index n], old =>
    let items := (old.getD .null).items
    .array (alterItem (fun _ => new) (place n items.length) items)
  | .index n :: rest, old =>
    let items := (old.getD .null).items
    .array (alterItem (write new rest) (place n items.length) items)

def put (key : Key) (new : Setting) (root : Setting) : Setting :=
  .table (alterField (write new key.rest) key.head root.fields)

end Key
end WidgetLocator
