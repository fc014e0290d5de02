import WidgetLocator.Path.Parser

/-! Readers of the tokens that are left. Of a list of tokens only those before the first end marker
count, and a reader that has used them up stands at the stop offset: that of the marker, or without one
the place right after the text of the last token. A reader is a function from the tokens that are left
to a result and the tokens that are left after it. -/

namespace WidgetLocator.Path

section Tokens

variable {stop : Nat} {kind : Token.Kind} {expected : Expected} {ts rest : List Token} {t : Token}

/-- The tokens before the first end marker. -/
def body (ts : List Token) : List Token := ts.takeWhile (·.kind != .finish)

def stopOffset (ts : List Token) : Nat :=
  match ts.find? (·.kind == .finish) with
  | some t => t.offset
  | none => (ts.getLast?.map fun t => t.offset + t.text.utf8ByteSize).getD 0

def offsetAt (stop : Nat) : List Token → Nat
  | [] => stop
  | t :: _ => t.offset

def foundAt : List Token → String
  | [] => "end of input"
  | t :: _ => s!"'{t.display}'"

def take? (kind : Token.Kind) : List Token → Option (Token × List Token)
  | [] => none
  | t :: rest => if t.kind = kind then some (t, rest) else none

def expect (stop : Nat) (kind : Token.Kind) (expected : Expected) (ts : List Token) :
    Except ParseError (Token × List Token) :=
  match take? kind ts with
  | some found => .ok found
  | none => .error (.unexpected expected (offsetAt stop ts) (foundAt ts))

theorem length_take? (h : take? kind ts = some (t, rest)) : rest.length < ts.length := by
  cases ts with
  | nil => cases h
  | cons u us =>
    rw [take?] at h
    split at h
    · cases h
      exact Nat.lt_succ_self _
    · cases h

theorem length_expect (h : expect stop kind expected ts = .ok (t, rest)) : rest.length < ts.length := by
  rw [expect] at h
  split at h
  · next found =>
    cases h
    exact length_take? found
  · cases h

end Tokens

section Conditions

variable {stop : Nat} {ts rest : List Token} {t : Token}

def readComparison (stop : Nat) (ts : List Token) : Except ParseError (Comparison × List Token) :=
  match expect stop .operator .comparison ts with
  | .error e => .error e
  | .ok (t, rest) =>
    match Comparison.ofSymbol? t.text with
    | some op => .ok (op, rest)
    | none => .error (.unexpected .comparison t.offset s!"'{t.text}'")

def readBareValue (stop : Nat) (ts : List Token) : Except ParseError (Token × List Token) :=
  match take? .literal ts with
  | some found => .ok found
  | none => expect stop .tag .literalOrTag ts

/-- Whether a test without `@` begins here: a tag, then an operator, then a literal or a tag. -/
def atBareTest : List Token → Bool
  | name :: op :: value :: _ =>
    name.kind == .tag && op.kind == .operator && (value.kind == .literal || value.kind == .tag)
  | _ => false

def readBareTest (stop : Nat) (ts : List Token) : Except ParseError (Condition × List Token) := do
  let (name, ts) ← expect stop .tag .attributeName ts
  let (op, ts) ← readComparison stop ts
  let (value, ts) ← readBareValue stop ts
  return (.test ⟨name.text, op, value.text⟩, ts)

def readAttributeTest (stop : Nat) (ts : List Token) : Except ParseError (Condition × List Token) := do
  let (name, ts) ← expect stop .tag .attributeName ts
  let (op, ts) ← readComparison stop ts
  let (value, ts) ← expect stop .literal .quotedLiteral ts
  return (.test ⟨name.text, op, String.ofList (unescape value.text.toList)⟩, ts)

def isConnective (t : Token) : Bool := t.kind == .tag && (t.text == "and" || t.text == "or")

def readCondition (stop : Nat) (t : Token) (rest : List Token) :
    Except ParseError (Option Condition × List Token) :=
  if atBareTest (t :: rest) then
    match readBareTest stop (t :: rest) with
    | .error e => .error e
    | .ok (condition, rest) => .ok (some condition, rest)
  else if t.kind = .atSign then
    match readAttributeTest stop rest with
    | .error e => .error e
    | .ok (condition, rest) => .ok (some condition, rest)
  else if t.isNumeric then
    match leadingNumber? t.text with
    | some n => .ok (some (.position n), rest)
    | none => .error (.notACondition t.offset (foundAt [t]))
  else if isConnective t then .ok (none, rest)
  else .error (.notACondition t.offset (foundAt [t]))

theorem length_readComparison {op : Comparison} (h : readComparison stop ts = .ok (op, rest)) :
    rest.length < ts.length := by
  rw [readComparison] at h
  split at h
  · cases h
  · next heard =>
    split at h <;> cases h
    exact length_expect heard

theorem length_readBareValue (h : readBareValue stop ts = .ok (t, rest)) : rest.length < ts.length := by
  rw [readBareValue] at h
  split at h
  · next found =>
    cases h
    exact length_take? found
  · exact length_expect h

theorem length_readBareTest {c : Condition} (h : readBareTest stop ts = .ok (c, rest)) :
    rest.length < ts.length := by
  obtain ⟨⟨name, ts₁⟩, hname, h⟩ := bind_eq_ok_iff.1 h
  obtain ⟨⟨op, ts₂⟩, hop, h⟩ := bind_eq_ok_iff.1 h
  obtain ⟨⟨value, ts₃⟩, hvalue, h⟩ := bind_eq_ok_iff.1 h
  cases h
  exact Nat.lt_trans (length_readBareValue hvalue)
    (Nat.lt_trans (length_readComparison hop) (length_expect hname))

theorem length_readAttributeTest {c : Condition} (h : readAttributeTest stop ts = .ok (c, rest)) :
    rest.length < ts.length := by
  obtain ⟨⟨name, ts₁⟩, hname, h⟩ := bind_eq_ok_iff.1 h
  obtain ⟨⟨op, ts₂⟩, hop, h⟩ := bind_eq_ok_iff.1 h
  obtain ⟨⟨value, ts₃⟩, hvalue, h⟩ := bind_eq_ok_iff.1 h
  cases h
  exact Nat.lt_trans (length_expect hvalue) (Nat.lt_trans (length_readComparison hop) (length_expect hname))

theorem length_readCondition {c : Option Condition} (h : readCondition stop t ts = .ok (c, rest)) :
    rest.length ≤ ts.length := by
  rw [readCondition] at h
  split at h
  · split at h
    · cases h
    · next heard =>
      cases h
      exact Nat.le_of_lt_succ (length_readBareTest heard)
  · split at h
    · split at h
      · cases h
      · next heard =>
        cases h
        exact Nat.le_of_lt (length_readAttributeTest heard)
    · split at h
      · split at h <;> cases h
        exact Nat.le_refl _
      · split at h <;> cases h
        exact Nat.le_refl _

def readConditions (stop : Nat) (ts : List Token) :
    Except ParseError (List Condition × List Token) :=
  match ts with
  | [] => .ok ([], [])
  | t :: rest =>
    if t.kind = .closeBracket then .ok ([], t :: rest)
    else
      match _heard : readCondition stop t rest with
      | .error e => .error e
      | .ok (condition, rest') =>
        match readConditions stop rest' with
        | .error e => .error e
        | .ok (conditions, rest'') => .ok (condition.toList ++ conditions, rest'')
termination_by ts.length
decreasing_by
  have := length_readCondition _heard
  simp only [List.length_cons]
  omega

/-- One turn of the reading, without the facts that make it end. -/
theorem readConditions_cons (hk : t.kind ≠ .closeBracket) :
    readConditions stop (t :: ts) =
      match readCondition stop t ts with
      | .error e => .error e
      | .ok (c, rest) =>
        (readConditions stop rest).map fun (cs, rest') => (c.toList ++ cs, rest') := by
  rw [readConditions, if_neg hk]
  split
  · next e failed => simp only [failed]
  · next c rest heard =>
    simp only [heard]
    cases readConditions stop rest <;> rfl

end Conditions

section Steps

variable {stop : Nat} {ts rest : List Token} {t : Token}

def Opening.map {σ τ : Type} (f : σ → τ) : Opening σ → Opening τ
  | descendant rest => .descendant (f rest)
  | step absolute rest => .step absolute (f rest)

def opening (t : Token) (rest : List Token) : Opening (List Token) :=
  if t.kind = .slash then
    if t.isDescendant then .descendant rest
    else
      match take? .slash rest with
      | some (_, rest) => .descendant rest
      | none => .step true rest
  else .step false (t :: rest)

theorem isDescendant_iff (h : t.kind = .slash) : t.isDescendant ↔ t.text = "//" := by
  simp [Token.isDescendant, h]

def readAxis (ts : List Token) : String × List Token :=
  match take? .axis ts with
  | some (t, rest) => (t.text, rest)
  | none => (Step.defaultAxis, ts)

def readNodeTest (stop : Nat) (ts : List Token) : Except ParseError (String × List Token) :=
  match take? .wildcard ts with
  | some (_, rest) => .ok (Step.wildcard, rest)
  | none =>
    match take? .tag ts with
    | some (t, rest) => .ok (t.text, rest)
    | none => .error (.noNodeTest (offsetAt stop ts) (foundAt ts))

def readBrackets (stop : Nat) (ts : List Token) :
    Except ParseError (Option (List Condition) × List Token) :=
  match take? .openBracket ts with
  | none => .ok (none, ts)
  | some (_, rest) =>
    match readConditions stop rest with
    | .error e => .error e
    | .ok (conditions, rest) =>
      match take? .closeBracket rest with
      | some (_, rest) => .ok (some conditions, rest)
      | none => .error (.noClosingBracket (offsetAt stop rest) (foundAt rest))

def readNamespace (tag : String) (ts : List Token) : String × List Token :=
  match take? .namespaceName ts with
  | some (t, rest) => (s!"{t.text}:{tag}", rest)
  | none => (tag, ts)

def readStep (stop : Nat) (absolute : Bool) (ts : List Token) : Except ParseError (Step × List Token) :=
  let (axis, ts) := readAxis ts
  match readNodeTest stop ts with
  | .error e => .error e
  | .ok (tag, ts) =>
    match readBrackets stop ts with
    | .error e => .error e
    | .ok (predicate, ts) =>
      let (tag, ts) := readNamespace tag ts
      .ok (⟨axis, tag, predicate, absolute⟩, ts)

theorem length_readAxis (ts : List Token) : (readAxis ts).2.length ≤ ts.length := by
  rw [readAxis]
  split
  · next found => exact Nat.le_of_lt (length_take? found)
  · exact Nat.le_refl _

theorem length_readNodeTest {tag : String} (h : readNodeTest stop ts = .ok (tag, rest)) :
    rest.length < ts.length := by
  rw [readNodeTest] at h
  split at h
  · next found =>
    cases h
    exact length_take? found
  · split at h
    · next found =>
      cases h
      exact length_take? found
    · cases h

theorem length_readConditions {cs : List Condition} (h : readConditions stop ts = .ok (cs, rest)) :
    rest.length ≤ ts.length := by
  fun_induction readConditions stop ts generalizing cs rest with
  | case1 | case2 =>
    cases h
    exact Nat.le_refl _
  | case3 | case4 => cases h
  | case5 t us _ _ _ heard _ _ heard' ih =>
    cases h
    exact Nat.le_succ_of_le (Nat.le_trans (ih heard') (length_readCondition heard))

theorem length_readBrackets {predicate : Option (List Condition)}
    (h : readBrackets stop ts = .ok (predicate, rest)) : rest.length ≤ ts.length := by
  rw [readBrackets] at h
  split at h
  · cases h
    exact Nat.le_refl _
  · next opened =>
    split at h
    · cases h
    · next heard =>
      split at h
      · next closed =>
        cases h
        have := length_take? opened
        have := length_readConditions heard
        have := length_take? closed
        omega
      · cases h

theorem length_readNamespace (tag : String) (ts : List Token) :
    (readNamespace tag ts).2.length ≤ ts.length := by
  rw [readNamespace]
  split
  · next found => exact Nat.le_of_lt (length_take? found)
  · exact Nat.le_refl _

theorem length_readStep {absolute : Bool} {s : Step} (h : readStep stop absolute ts = .ok (s, rest)) :
    rest.length < ts.length := by
  rw [readStep] at h
  dsimp only at h
  split at h
  · cases h
  · next tag afterTag heard =>
    split at h
    · cases h
    · next predicate afterBrackets heard' =>
      cases h
      have := length_readAxis ts
      have := length_readNodeTest heard
      have := length_readBrackets heard'
      have := length_readNamespace tag afterBrackets
      omega

theorem length_opening_descendant (h : opening t ts = .descendant rest) : rest.length ≤ ts.length := by
  rw [opening] at h
  split at h
  · split at h
    · cases h
      exact Nat.le_refl _
    · split at h
      · next found =>
        cases h
        exact Nat.le_of_lt (length_take? found)
      · cases h
  · cases h

theorem length_opening_step {absolute : Bool} (h : opening t ts = .step absolute rest) :
    rest.length ≤ ts.length + 1 := by
  rw [opening] at h
  split at h
  · split at h
    · cases h
    · split at h <;> cases h
      exact Nat.le_succ _
  · cases h
    exact Nat.le_refl _

def readSteps (stop : Nat) (ts : List Token) : Except ParseError (List Step) :=
  match ts with
  | [] => .ok []
  | t :: rest =>
    match _opened : opening t rest with
    | .descendant rest =>
      match readSteps stop rest with
      | .error e => .error e
      | .ok steps => .ok (Step.descendantOrSelf :: steps)
    | .step absolute ts' =>
      match _heard : readStep stop absolute ts' with
      | .error e => .error e
      | .ok (s, rest) =>
        match readSteps stop rest with
        | .error e => .error e
        | .ok steps => .ok (s :: steps)
termination_by ts.length
decreasing_by
  · have := length_opening_descendant _opened
    simp only [List.length_cons]
    omega
  · have := length_opening_step _opened
    have := length_readStep _heard
    simp only [List.length_cons]
    omega

theorem readSteps_cons (stop : Nat) (t : Token) (ts : List Token) : readSteps stop (t :: ts) =
    match opening t ts with
    | .descendant rest => (readSteps stop rest).map (Step.descendantOrSelf :: ·)
    | .step absolute ts' =>
      match readStep stop absolute ts' with
      | .error e => .error e
      | .ok (s, rest) => (readSteps stop rest).map (s :: ·) := by
  rw [readSteps]
  split
  · next rest opened =>
    simp only [opened]
    cases readSteps stop rest <;> rfl
  · next absolute ts' opened =>
    simp only [opened]
    split
    · next e failed => simp only [failed]
    · next s rest heard =>
      simp only [heard]
      cases readSteps stop rest <;> rfl

end Steps

end WidgetLocator.Path
