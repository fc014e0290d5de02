import WidgetLocator.Path.Error
import WidgetLocator.Token.Basic

/-! A place in a list of tokens, from which the list is read on. The list need not end in an end marker,
and there may be more tokens after the first one. Reading never goes past it, and where the list just
ends it is as if a marker stood there, right after the text of the last token. -/

namespace WidgetLocator.Path

structure Cursor (ts : List Token) where
  pos : Nat
  /-- No end marker has been read. -/
  before : ∀ t ∈ ts.take pos, t.kind ≠ .finish

namespace Cursor

variable {ts : List Token} (c : Cursor ts)

def start (ts : List Token) : Cursor ts := ⟨0, by simp⟩

def current? : Option Token := ts[c.pos]?

/-- The kind of the token that is `n` tokens ahead, or of an end marker on the way to it. -/
def peekKind (n : Nat) : Token.Kind :=
  if ((ts.drop c.pos).take (n + 1)).any (·.kind == .finish) then .finish
  else (ts[c.pos + n]?.map (·.kind)).getD .finish

def isAtEnd : Bool := c.current?.all (·.kind == .finish)

def check (kind : Token.Kind) : Bool := !c.isAtEnd && c.current?.any (·.kind == kind)

variable {c}

theorem exists_current (h : c.isAtEnd = false) : ∃ t, ts[c.pos]? = some t ∧ t.kind ≠ .finish := by
  rw [isAtEnd, current?, Option.all_eq_false] at h
  simpa using h

theorem pos_lt (h : c.isAtEnd = false) : c.pos < ts.length := by
  obtain ⟨t, ht, -⟩ := exists_current h
  exact (List.getElem?_eq_some_iff.1 ht).1

theorem forall_take_succ (h : c.isAtEnd = false) : ∀ t ∈ ts.take (c.pos + 1), t.kind ≠ .finish := by
  obtain ⟨u, hu, hkind⟩ := exists_current h
  intro t ht
  rw [List.take_add_one, hu, Option.toList_some, List.mem_append, List.mem_singleton] at ht
  rcases ht with ht | rfl
  · exact c.before t ht
  · exact hkind

variable (c)

def next (h : c.isAtEnd = false) : Cursor ts := ⟨c.pos + 1, forall_take_succ h⟩

def advance? : Option (Token × Cursor ts) :=
  if h : c.isAtEnd = false then c.current?.map fun t => (t, c.next h) else none

def match? (kind : Token.Kind) : Option (Token × Cursor ts) :=
  if c.check kind then c.advance? else none

/-- Without a token here, the place after the text of the last one. -/
def offset : Nat :=
  match c.current? with
  | some t => t.offset
  | none => (ts.getLast?.map fun t => t.offset + t.text.utf8ByteSize).getD 0

def describe : String :=
  match c.current? with
  | some t => if t.kind ≠ .finish then s!"'{t.display}'" else "end of input"
  | none => "end of input"

def consume (kind : Token.Kind) (expected : Expected) : Except ParseError (Token × Cursor ts) :=
  match c.match? kind with
  | some found => .ok found
  | none => .error (.unexpected expected c.offset c.describe)

variable {c} {d : Cursor ts} {t : Token} {kind : Token.Kind} {expected : Expected}

theorem isAtEnd_of_check (h : c.check kind) : c.isAtEnd = false := by
  rw [check, Bool.and_eq_true, Bool.not_eq_true'] at h
  exact h.1

theorem pos_advance? (h : c.advance? = some (t, d)) : c.pos < d.pos := by
  rw [advance?] at h
  split at h
  · obtain ⟨u, -, hu⟩ := Option.map_eq_some_iff.1 h
    cases hu
    exact Nat.lt_succ_self c.pos
  · cases h

theorem pos_match? (h : c.match? kind = some (t, d)) : c.pos < d.pos := by
  rw [match?] at h
  split at h
  · exact pos_advance? h
  · cases h

theorem pos_consume (h : c.consume kind expected = .ok (t, d)) : c.pos < d.pos := by
  rw [consume] at h
  split at h
  · next found =>
    cases h
    exact pos_match? found
  · cases h

end Cursor
end WidgetLocator.Path
