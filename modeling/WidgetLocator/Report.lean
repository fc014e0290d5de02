import WidgetLocator.Pipeline.Error

/-! Error reports. The line of the source that holds the offset is shown with its number, and a caret
below it counts the characters of the line that stand before the offset. Places are counted in bytes,
and the source can be cut at a place only if it is between two characters. -/

namespace WidgetLocator.Report

/-- The text from the byte `i` up to the byte `j`, unless a bound cuts a character or they cross. -/
def slice? (s : String) (i j : Nat) : Option String :=
  if h : (⟨i⟩ : String.Pos.Raw).IsValid s ∧ (⟨j⟩ : String.Pos.Raw).IsValid s then
    (s.slice? (s.pos ⟨i⟩ h.1) (s.pos ⟨j⟩ h.2)).map String.Slice.copy
  else none

def clampBelow (source : String) : Nat → Nat
  | 0 => 0
  | b + 1 => if (⟨b + 1⟩ : String.Pos.Raw).IsValid source then b + 1 else clampBelow source b

/-- The last place between two characters up to the offset. -/
def clamp (source : String) (offset : Nat) : Nat := clampBelow source (min offset source.utf8ByteSize)

/-- The byte of the first line feed in a text that stands at the byte `i`. -/
def firstFeed? (i : Nat) : List Char → Option Nat
  | [] => none
  | c :: cs => if c = '\n' then some i else firstFeed? (i + c.utf8Size) cs

def lastFeed? (i : Nat) : List Char → Option Nat
  | [] => none
  | c :: cs => (lastFeed? (i + c.utf8Size) cs).or (if c = '\n' then some i else none)

def lineNumber (n : Nat) : String :=
  String.ofList (List.replicate (3 - (toString n).length) ' ') ++ toString n

/-- There is no context if the source is cut inside a character, which does not happen. -/
def sourceContext? (source : String) (offset : Nat) : Option String := do
  let offset := clamp source offset
  let before ← slice? source 0 offset
  let start := (lastFeed? 0 before.toList).elim 0 (· + 1)
  let after ← slice? source offset source.utf8ByteSize
  let stop := (firstFeed? 0 after.toList).elim source.utf8ByteSize (offset + ·)
  let above ← slice? source 0 start
  let number := lineNumber (above.toList.count '\n' + 1)
  let lead ← slice? source start offset
  let line ← slice? source start stop
  let spaces := String.ofList (List.replicate lead.length ' ')
  return s!">> {number} | {line}\n       | {spaces}^\n"

def sourceContext (source : String) (offset : Nat) : String := (sourceContext? source offset).getD ""

def ofError (source : String) (e : PipelineError) : String :=
  match e.offset? with
  | some offset => s!"Error: {e.message}\n\n{sourceContext source offset}"
  | none => s!"Error: {e.message}\n"

end WidgetLocator.Report
