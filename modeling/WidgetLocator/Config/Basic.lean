import WidgetLocator.Config.Error
import WidgetLocator.Config.Setting
import WidgetLocator.Pipeline.Rendering

/-! The configuration: the output format, the indent of declarations and the grammar of paths. It is
read from a tree of settings, in which a value may be written in more than one way: a number as a
text, a text as a number, a section as a table or as an array of its members in their order. Members
that the configuration does not know are left alone. -/

namespace WidgetLocator

open Text

/-- Which grammar paths are read in. -/
inductive Mode where
  | full
  | segments
deriving DecidableEq, Repr

def Mode.ofName (name : String) : Except ConfigError Mode :=
  match lowerCase name with
  | "full" => .ok .full
  | "segments" => .ok .segments
  | _ => .error (.unknownMode name)

structure Config where
  format : String
  indent : Nat
  mode : Mode
deriving DecidableEq, Repr

namespace Config

def rendering (c : Config) (r : Registry) : Except FormatError Rendering :=
  Rendering.configured r c.format c.indent

def defaults : Setting :=
  .table
    [("render", .table [("format", .string "declarations"), ("indent", .int 4)]),
     ("parser", .table [("mode", .string "full")])]

def readText (key : String) (s : Setting) : Except ConfigError String :=
  match s.text? with
  | some text => .ok text
  | none => .error (.mismatch key s.describe "a string")

/-- The number that a text stands for: digits, perhaps after a plus sign, or a word for yes or no. -/
def textNumber? (text : String) : Option Nat :=
  if ["true", "on", "yes"].contains (lowerCase text) then some 1
  else if ["false", "off", "no"].contains (lowerCase text) then some 0
  else
    let digits := match text.toList with
      | '+' :: cs => cs
      | cs => cs
    if digits.isEmpty || !digits.all Char.isDigit then none else storedNumber? digits

/-- A number that can be stored; doubles are rounded, and kept within the numbers that can be
stored. -/
def readNumber (key : String) (s : Setting) : Except ConfigError Nat :=
  let largest := wordLimit - 1
  match s with
  | .int n =>
    if 0 ≤ n then .ok n.toNat
    else .error (.mismatch key s!"64-bit {s.describe}" "an unsigned 64 bit or less integer")
  | .bool b => .ok b.toNat
  | .double negative size => .ok (if negative then 0 else min size.nearest largest)
  | .infinite negative => .ok (if negative then 0 else largest)
  | .notANumber => .ok 0
  | .string text =>
    match textNumber? text with
    | some n => .ok n
    | none => .error (.mismatch key s.describe "an integer")
  | .null | .array _ | .table _ => .error (.mismatch key s.describe "an integer")

/-- A mode is a name, or a table whose only key is the name. -/
def readMode : Setting → Except ConfigError Mode
  | .string name => Mode.ofName name
  | .table [(name, _)] => Mode.ofName name
  | _ => .error .notAMode

/-- A section of the configuration with the names of its members in their order. -/
structure Shape where
  key : String
  type : String
  members : List String

def Shape.render : Shape := ⟨"render", "struct RenderConfig", ["format", "indent"]⟩

def Shape.parser : Shape := ⟨"parser", "struct ParserConfig", ["mode"]⟩

def readMember? {α : Type} (shape : Shape) (s : Setting) (member : String)
    (read : (key : String) → Setting → Except ConfigError α) : Except ConfigError (Option α) :=
  match s with
  | .table fields => (fields.lookup member).mapM (read s!"{shape.key}.{member}")
  | .array items =>
    let place := shape.members.idxOf member
    items[place]?.mapM (read s!"{shape.key}[{place}]")
  | other => .error (.notASection other.describe shape.type)

def require {α : Type} (shape : Shape) (s : Setting) (member : String) :
    Option α → Except ConfigError α
  | some a => .ok a
  | none =>
    match s with
    | .array items => .error (.tooShort items.length shape.type shape.members.length)
    | _ => .error (.missing member)

def sectionOf (shape : Shape) (root : Setting) : Except ConfigError Setting :=
  match root.fields.lookup shape.key with
  | some s => .ok s
  | none => .error (.missing shape.key)

/-- The configuration in a tree of settings. A value of the wrong kind is an error before a member
that is missing. -/
def ofSetting (root : Setting) : Except ConfigError Config := do
  let render ← sectionOf .render root
  let format? ← readMember? .render render "format" readText
  let indent? ← readMember? .render render "indent" readNumber
  let format ← require .render render "format" format?
  let indent ← require .render render "indent" indent?
  let parser ← sectionOf .parser root
  let mode? ← readMember? .parser parser "mode" fun _ s => readMode s
  return ⟨format, indent, ← require .parser parser "mode" mode?⟩

end Config
end WidgetLocator
