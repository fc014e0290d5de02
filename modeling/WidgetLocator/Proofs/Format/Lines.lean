import Mathlib.Data.List.ModifyLast
import WidgetLocator.Proofs.Format.Declarations

/-! Documents line by line. The lines of a document are laid out first, each with its depth and without
regard to the indent: an entry has lines of its own, one level below the brackets around it, with its key
on the first of them and a comma on the last. Writing them one below the other gives the text of the
document. A declaration is laid out in the same way with the container as its last entry, and so it makes
no difference that its text is put together by cutting off the end of another. -/

namespace WidgetLocator

namespace Json

/-- A line of a document, with the number of brackets that are open around it. -/
structure Line where
  depth : Nat
  text : List Char
deriving DecidableEq, Repr

namespace Line

def deeper (l : Line) : Line := { l with depth := l.depth + 1 }

def comma (l : Line) : Line := { l with text := l.text ++ [','] }

def keyed (key : String) (l : Line) : Line := { l with text := fieldText key l.text }

end Line

section Layout

def separated : List (List Line) → List Line
  | [] => []
  | [entry] => entry
  | entry :: next :: entries => entry.modifyLast Line.comma ++ separated (next :: entries)

def rowLines (opening closing : Char) : List (List Line) → List Line
  | [] => [⟨0, [opening, closing]⟩]
  | entry :: entries =>
    ⟨0, [opening]⟩ :: (separated (entry :: entries)).map Line.deeper ++ [⟨0, [closing]⟩]

mutual

def lines : Value → List Line
  | .null => [⟨0, ['n', 'u', 'l', 'l']⟩]
  | .bool true => [⟨0, ['t', 'r', 'u', 'e']⟩]
  | .bool false => [⟨0, ['f', 'a', 'l', 's', 'e']⟩]
  | .int n => [⟨0, intText n⟩]
  | .string s => [⟨0, stringText s⟩]
  | .array items => rowLines '[' ']' (itemLines items)
  | .object fields => rowLines '\x7b' '\x7d' (fieldLines fields)

def itemLines : List Value → List (List Line)
  | [] => []
  | item :: items => lines item :: itemLines items

def fieldLines : List (String × Value) → List (List Line)
  | [] => []
  | (key, value) :: fields => (lines value).modifyHead (Line.keyed key) :: fieldLines fields

end

def written (indent : Nat) (ls : List Line) : List Char :=
  ['\n'].intercalate (ls.map fun l => List.replicate (indent * l.depth) ' ' ++ l.text)

example : String.ofList (written 2 (lines (.object [("a", .array [.int 1, .array []]), ("b", .object [])]))) =
    "\x7b\n  \"a\": [\n    1,\n    []\n  ],\n  \"b\": \x7b\x7d\n\x7d" := by decide +kernel

/-- Lines of which the first has depth zero, as all documents have them. -/
def Begins (ls : List Line) : Prop := ∃ start rest, ls = ⟨0, start⟩ :: rest

/-- The lines at some depth, with a line break before each. -/
def below (indent depth : Nat) (ls : List Line) : List Char :=
  ls.flatMap fun l => lineAt indent (depth + l.depth) ++ l.text

end Layout

section Writing

variable {indent depth : Nat} {ls : List Line} {l : Line}

theorem below_cons : below indent depth (l :: ls) =
    lineAt indent (depth + l.depth) ++ l.text ++ below indent depth ls := rfl

theorem below_append (ls ls' : List Line) :
    below indent depth (ls ++ ls') = below indent depth ls ++ below indent depth ls' :=
  List.flatMap_append

theorem below_deeper (ls : List Line) :
    below indent depth (ls.map Line.deeper) = below indent (depth + 1) ls := by
  rw [below, below, List.flatMap_map]
  simp only [Line.deeper, Nat.add_assoc, Nat.add_comm 1]

theorem below_comma (hls : ls ≠ []) :
    below indent depth (ls.modifyLast Line.comma) = below indent depth ls ++ [','] := by
  obtain ⟨ls, l, rfl⟩ := (List.eq_nil_or_concat' ls).resolve_left hls
  simp [List.modifyLast_concat, below, Line.comma]

theorem written_eq_below (hls : ls ≠ []) : '\n' :: written indent ls = below indent 0 ls := by
  induction ls with
  | nil => exact absurd rfl hls
  | cons l ls ih =>
    rw [below_cons, Nat.zero_add, lineAt, written, List.map_cons]
    by_cases hlast : ls = []
    · subst hlast
      simp [below]
    · rw [List.intercalate_cons_of_ne_nil (by simpa using hlast), ← ih hlast, written]
      simp

theorem Begins.ne_nil (h : Begins ls) : ls ≠ [] := by
  obtain ⟨start, rest, rfl⟩ := h
  exact List.cons_ne_nil _ _

theorem Begins.keyed (h : Begins ls) (key : String) : Begins (ls.modifyHead (Line.keyed key)) := by
  obtain ⟨start, rest, rfl⟩ := h
  exact ⟨_, rest, rfl⟩

theorem below_separated {entries : List (List Line)} (hne : ∀ entry ∈ entries, entry ≠ []) :
    below indent depth (separated entries) = [','].intercalate (entries.map (below indent depth)) := by
  induction entries with
  | nil => rfl
  | cons entry entries ih =>
    obtain ⟨hentry, hentries⟩ := List.forall_mem_cons.1 hne
    cases entries with
    | nil => simp [separated]
    | cons next entries =>
      rw [List.map_cons, List.intercalate_cons_of_ne_nil (by simp), separated, below_append,
        below_comma hentry, ih hentries]

theorem below_rowLines {α : Type} {entries : List α} {print : α → List Char} {entryLines : α → List Line}
    (opening closing : Char) (hbegins : ∀ e ∈ entries, Begins (entryLines e))
    (hprint : ∀ e ∈ entries, lineAt indent (depth + 1) ++ print e = below indent (depth + 1) (entryLines e)) :
    lineAt indent depth ++ opening :: rowText indent depth print closing entries =
      below indent depth (rowLines opening closing (entries.map entryLines)) := by
  cases entries with
  | nil => simp [rowText, rowLines, below]
  | cons e entries =>
    have hrow : (e :: entries).map (fun e => lineAt indent (depth + 1) ++ print e) =
        ((e :: entries).map entryLines).map (below indent (depth + 1)) := by
      rw [List.map_map]
      exact List.map_congr_left hprint
    have hseparated :
        below indent (depth + 1) (separated ((e :: entries).map entryLines)) = [','].intercalate _ :=
      below_separated (List.forall_mem_map.2 fun e he => (hbegins e he).ne_nil)
    rw [rowText, hrow, ← hseparated, List.map_cons, rowLines, List.cons_append, below_cons, below_append,
      below_deeper]
    simp [below]

theorem begins_rowLines (opening closing : Char) (entries : List (List Line)) :
    Begins (rowLines opening closing entries) := by
  cases entries <;> exact ⟨_, _, rfl⟩

theorem begins_lines (v : Value) : Begins (lines v) := by
  cases v with
  | bool b => cases b <;> exact ⟨_, _, rfl⟩
  | array items => exact begins_rowLines _ _ _
  | object fields => exact begins_rowLines _ _ _
  | null | int | string => exact ⟨_, _, rfl⟩

theorem itemLines_eq_map (items : List Value) : itemLines items = items.map lines := by
  induction items with
  | nil => rfl
  | cons item items ih => rw [itemLines, ih, List.map_cons]

theorem fieldLines_eq_map (fields : List (String × Value)) :
    fieldLines fields = fields.map fun f => (lines f.2).modifyHead (Line.keyed f.1) := by
  induction fields with
  | nil => rfl
  | cons f fields ih => rw [fieldLines, ih, List.map_cons]

theorem below_keyed {key : String} {content : List Char} (hbegins : Begins ls)
    (h : lineAt indent depth ++ content = below indent depth ls) :
    lineAt indent depth ++ fieldText key content = below indent depth (ls.modifyHead (Line.keyed key)) := by
  obtain ⟨start, rest, rfl⟩ := hbegins
  rw [below_cons, List.append_assoc] at h
  have hcontent : content = start ++ below indent depth rest := List.append_cancel_left h
  rw [List.modifyHead_cons, below_cons, hcontent]
  simp [Line.keyed, fieldText]

theorem sizeOf_field_lt {f : String × Value} {fields : List (String × Value)} (hf : f ∈ fields) :
    sizeOf f.2 < sizeOf fields := by
  have hlt := List.sizeOf_lt_of_mem hf
  obtain ⟨key, v⟩ := f
  rw [Prod.mk.sizeOf_spec] at hlt
  exact (Nat.le_add_left _ _).trans_lt hlt

theorem lineAt_text (indent depth : Nat) (v : Value) :
    lineAt indent depth ++ text indent depth v = below indent depth (lines v) := by
  match v with
  | .null | .int n | .string s => simp [text, lines, below]
  | .bool b => cases b <;> simp [text, lines, below]
  | .array items =>
    rw [text_array, lines, itemLines_eq_map]
    exact below_rowLines _ _ (fun v _ => begins_lines v) fun v _ => lineAt_text indent (depth + 1) v
  | .object fields =>
    rw [text_object, lines, fieldLines_eq_map]
    refine below_rowLines _ _ (fun f _ => (begins_lines f.2).keyed f.1) fun f hf => ?_
    have hlt := sizeOf_field_lt hf
    exact below_keyed (begins_lines f.2) (lineAt_text indent (depth + 1) f.2)
termination_by v

end Writing

end Json

namespace Declarations

open Json

def Content.lines : Content → List Line
  | value v => Json.lines v
  | reference id => [⟨0, id.toList⟩]

/-- The lines of the object that a record is declared as: its metadata and then its container, if it has
one. -/
def declaredLines (r : Record) : List Line :=
  rowLines '\x7b' '\x7d' ((contents r).map fun f => f.2.lines.modifyHead (Line.keyed f.1))

variable {indent depth : Nat}

theorem Content.begins_lines (c : Content) : Begins c.lines := by
  cases c with
  | value v => exact Json.begins_lines v
  | reference id => exact ⟨_, _, rfl⟩

theorem Content.lineAt_text (c : Content) : lineAt indent 1 ++ c.text indent = below indent 1 c.lines := by
  cases c with
  | value v => exact Json.lineAt_text indent 1 v
  | reference id => simp [Content.text, Content.lines, below]

theorem written_declaredLines (indent : Nat) (r : Record) : written indent (declaredLines r) =
    '\x7b' :: rowText indent 0 (entryText indent) '\x7d' (contents r) := by
  have hbegins : Begins (declaredLines r) := begins_rowLines _ _ _
  have hrow : lineAt indent 0 ++ '\x7b' :: rowText indent 0 (entryText indent) '\x7d' (contents r) =
      below indent 0 (declaredLines r) :=
    below_rowLines _ _ (fun f _ => f.2.begins_lines.keyed f.1)
      fun f _ => below_keyed f.2.begins_lines f.2.lineAt_text
  rw [← written_eq_below hbegins.ne_nil, lineAt_zero] at hrow
  exact (List.cons.inj hrow).2.symm

/-- Only an object without entries has no last line to cut off. -/
theorem reopened?_eq_none_iff {entries : List (String × Value)} :
    reopened? (text indent 0 (.object entries)) = none ↔ entries = [] := by
  cases entries with
  | nil => exact ⟨fun _ => rfl, fun _ => rfl⟩
  | cons e entries =>
    have hclosed : ∃ opened, text indent 0 (.object (e :: entries)) = opened ++ closing :=
      ⟨'\x7b' :: fieldsText indent 1 (e :: entries), by simp [text, lineAt_zero, closing]⟩
    obtain ⟨opened, hopened⟩ := hclosed
    simp [hopened, reopened?_closing]

/-- A declaration is its identifier and the object of the metadata and the container, laid out line by
line. The text of the metadata is cut off at its end to put the container in, except when there are no
metadata. -/
theorem declaration_laid_out (indent : Nat) (r : Record) :
    declaration indent r = r.id.toList ++ [' ', '=', ' '] ++ written indent (declaredLines r) ++ ['\n'] ∧
      (reopened? (text indent 0 (.object r.metadata.entries)) = none ↔ r.metadata.entries = []) := by
  refine ⟨?_, reopened?_eq_none_iff⟩
  rw [declaration_eq, written_declaredLines]
  simp

example : String.ofList (declaration 2 ⟨"a_b", ⟨[("tags", .array [.string "x", .object []])]⟩, "a"⟩) =
    "a_b = \x7b\n  \"tags\": [\n    \"x\",\n    \x7b\x7d\n  ],\n  \"container\": a\n\x7d\n" := by
  decide +kernel

end Declarations
end WidgetLocator
