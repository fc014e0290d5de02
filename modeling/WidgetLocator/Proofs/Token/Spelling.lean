import Mathlib.Data.List.TakeWhile
import WidgetLocator.Path.Step
import WidgetLocator.Proofs.Token.Layout

/-! Reading a text that is put together from the spellings of tokens. What comes after a spelling
matters for two of them only: a name must not go on, and a slash must not become a double one. -/

namespace WidgetLocator.Token

open Text Lexeme

/-- The characters in front of the rest are read as the tokens, whatever the rest is read as. -/
def ReadsAs (o : Nat) (cs after : List Char) (ts : List Token) : Prop :=
  ∀ us, Reads (o + String.utf8Len cs) after us → Reads o (cs ++ after) (ts ++ us)

def IsName (text : String) : Prop :=
  text.toList ∈ Pattern.name.language ∨ text.toList ∈ Pattern.colons.language

/-- A name that stands before the text is over. -/
def EndsName (after : List Char) : Prop := ∀ c ∈ after.head?, ¬ isNameChar c ∧ c ≠ ':'

section Pieces

variable {o : Nat} {cs cs' after : List Char} {ts ts' : List Token}

theorem ReadsAs.nil : ReadsAs o [] after [] := fun _ h => h

theorem ReadsAs.append (h : ReadsAs o cs (cs' ++ after) ts)
    (h' : ReadsAs (o + String.utf8Len cs) cs' after ts') : ReadsAs o (cs ++ cs') after (ts ++ ts') := by
  intro us hus
  rw [List.append_assoc, List.append_assoc]
  refine h _ (h' us ?_)
  rwa [Nat.add_assoc, ← String.utf8Len_append]

theorem ReadsAs.cons_blank {c : Char} (hc : isBlank c) (h : ReadsAs (o + c.utf8Size) cs after ts) :
    ReadsAs o (c :: cs) after ts := by
  intro us hus
  rw [String.utf8Len_cons, Nat.add_comm (String.utf8Len cs), ← Nat.add_assoc] at hus
  exact .blank hc (h us hus)

theorem ReadsAs.lexeme {c : Char} {rest : List Char} {kind : Kind} {text : String}
    (hcs : cs ++ after = c :: rest) (hc : isBlank c = false)
    (h : first? c rest = some ⟨kind, text.toList, cs⟩) : ReadsAs o cs after [⟨kind, text, o⟩] := by
  intro us hus
  have := Reads.token hc h hcs.symm hus
  rwa [String.ofList_toList, ← hcs] at this

end Pieces

section Spellings

variable {o : Nat} {after : List Char}

theorem readsAs_slash (h : after.head? ≠ some '/') : ReadsAs o ['/'] after [⟨.slash, "/", o⟩] :=
  .lexeme rfl rfl (by simp [first?, verbatim, h])

theorem readsAs_sign : ReadsAs o ['@'] after [⟨.atSign, "@", o⟩] := .lexeme rfl rfl rfl

theorem readsAs_openBracket : ReadsAs o ['['] after [⟨.openBracket, "[", o⟩] := .lexeme rfl rfl rfl

theorem readsAs_closeBracket : ReadsAs o [']'] after [⟨.closeBracket, "]", o⟩] := .lexeme rfl rfl rfl

theorem readsAs_wildcard : ReadsAs o ['*'] after [⟨.wildcard, "*", o⟩] := .lexeme rfl rfl rfl

theorem readsAs_operator (op : Comparison) :
    ReadsAs o op.symbol.toList ('\'' :: after) [⟨.operator, op.symbol, o⟩] := by
  cases op <;> exact .lexeme rfl rfl rfl

theorem first?_of_isQuote {c : Char} (hc : isQuote c) (rest : List Char) : first? c rest =
    (literalBody? c rest).map fun body => ⟨.literal, body, c :: body ++ [c]⟩ := by
  simp only [isQuote, Bool.or_eq_true, beq_iff_eq] at hc
  rcases hc with rfl | rfl <;> rfl

theorem readsAs_literal {body : List Char} (h : body ∈ enclosed '\'') :
    ReadsAs o ('\'' :: body ++ ['\'']) after [⟨.literal, String.ofList body, o⟩] := by
  have hbody : literalBody? '\'' (body ++ '\'' :: after) = some body :=
    (literalBody?_eq_some_iff (by decide)).2 ⟨h, by simp⟩
  have hcs : '\'' :: body ++ ['\''] ++ after = '\'' :: (body ++ '\'' :: after) := by simp
  refine .lexeme hcs rfl ?_
  rw [String.toList_ofList, first?_of_isQuote rfl, hbody]
  rfl

theorem isBlank_of_isNameStart {c : Char} (hc : isNameStart c) : isBlank c = false := by
  have hchar := isNameChar_of_isNameStart hc
  simp only [isNameChar, Bool.and_eq_true, Bool.not_eq_true'] at hchar
  exact hchar.1.1

theorem first?_of_isNameStart {c : Char} {rest : List Char} (hc : isNameStart c) :
    first? c rest = some (ofName (c :: rest)) := by
  have start := hc
  simp only [isNameStart, isNameChar, isSymbol, Bool.and_eq_true, Bool.not_eq_true',
    Bool.or_eq_false_iff, beq_eq_false_iff_ne, bne_iff_ne] at hc
  simp [first?, isOperatorChar, hc, start]

/-- The run of name characters before two colons is an axis. -/
theorem readsAs_axis {text : String} (h : text.toList ∈ axisRun) :
    ReadsAs o (text.toList ++ [':', ':']) after [⟨.axis, text, o⟩] := by
  obtain ⟨⟨c, hc, hstart⟩, hrun⟩ := mem_axisRun.1 h
  obtain ⟨v, htext⟩ := List.head?_eq_some_iff.1 hc
  have hcs : text.toList ++ [':', ':'] ++ after = c :: (v ++ ':' :: ':' :: after) := by simp [htext]
  have htake : (c :: (v ++ ':' :: ':' :: after)).takeWhile isNameChar = text.toList := by
    rw [← hcs, List.append_assoc, List.takeWhile_append_of_pos hrun]
    simp [isNameChar]
  refine .lexeme hcs (isBlank_of_isNameStart hstart) ?_
  rw [first?_of_isNameStart hstart, ofName, htake, ← hcs, List.append_assoc, List.drop_left]
  simp

theorem EndsName.any_eq_false (h : EndsName after) : after.head?.any isNameChar = false := by
  cases after with
  | nil => rfl
  | cons c after => simpa using (h c rfl).1

theorem EndsName.any_append (h : EndsName after) (cs : List Char) :
    (cs ++ after).head?.any isNameChar = cs.head?.any isNameChar := by
  cases cs with
  | cons c cs => rfl
  | nil => exact h.any_eq_false

theorem takeWhile_append_of_head {p : Char → Bool} (hp : ∀ c ∈ after.head?, p c = false)
    (cs : List Char) : (cs ++ after).takeWhile p = cs.takeWhile p := by
  induction cs with
  | nil =>
    cases after with
    | nil => rfl
    | cons c after => simp [hp c rfl]
  | cons c cs ih => rw [List.cons_append, List.takeWhile_cons, List.takeWhile_cons, ih]

theorem EndsName.nameTail_append (h : EndsName after) (cs : List Char) :
    nameTail (cs ++ after) = nameTail cs := by
  fun_induction nameTail cs with
  | case1 =>
    cases after with
    | nil => rfl
    | cons c after =>
      obtain ⟨hchar, hcolon⟩ := h c rfl
      simp [nameTail, hchar, hcolon]
  | case2 c rest hc ih => rw [List.cons_append, nameTail, if_pos hc, ih]
  | case3 rest hc ih =>
    rw [List.cons_append, nameTail, if_neg hc, if_pos rfl, h.any_append, ih]
  | case4 c rest hc hcolon => rw [List.cons_append, nameTail, if_neg hc, if_neg hcolon]

theorem EndsName.colons_append (h : EndsName after) (cs : List Char) :
    [':', ':'].isPrefixOf (cs ++ after) = [':', ':'].isPrefixOf cs := by
  have stops {r : List Char} (hr : ':' :: r <+: after) : False := by
    obtain ⟨after, rfl⟩ := hr
    exact (h ':' rfl).2 rfl
  rw [Bool.eq_iff_iff, List.isPrefixOf_iff_prefix, List.isPrefixOf_iff_prefix]
  refine ⟨fun hp => ?_, fun hp => hp.trans (List.prefix_append _ _)⟩
  rcases cs with _ | ⟨c, _ | ⟨d, cs⟩⟩
  · exact (stops hp).elim
  · exact (stops (List.cons_prefix_cons.1 hp).2).elim
  · exact List.prefix_of_prefix_length_le hp (List.prefix_append _ _) (by simp)

theorem EndsName.ofName_append (h : EndsName after) (cs : List Char) :
    ofName (cs ++ after) = ofName cs := by
  have htake : (cs ++ after).takeWhile isNameChar = cs.takeWhile isNameChar :=
    takeWhile_append_of_head (fun c hc => by simpa using (h c hc).1) cs
  have hle : (cs.takeWhile isNameChar).length ≤ cs.length := (List.takeWhile_prefix _).length_le
  simp only [ofName, htake, List.drop_append_of_le_length hle, h.colons_append, h.nameTail_append]

theorem EndsName.ofColon_append (h : EndsName after) (cs : List Char) :
    ofColon (':' :: (cs ++ after)) = ofColon (':' :: cs) := by
  have hrun : (':' :: (cs ++ after)).takeWhile (· == ':') = (':' :: cs).takeWhile (· == ':') :=
    takeWhile_append_of_head (fun c hc => by simpa using (h c hc).2) (':' :: cs)
  have hname : nameTail (':' :: (cs ++ after)) = nameTail (':' :: cs) := h.nameTail_append (':' :: cs)
  simp only [ofColon, List.tail_cons, h.any_append, hrun, hname]
  rfl

theorem nameTail_eq_self {w : List Char} (hw : w ∈ nameRest) : nameTail w = w :=
  List.IsPrefix.eq_of_length_le (nameTail_prefix_self w)
    (prefix_nameTail hw (List.prefix_refl w)).length_le

theorem ofName_eq_verbatim {w : List Char} (hw : w ∈ nameRest) : ofName w = verbatim .tag w := by
  have hscan := nameTail_eq_self hw
  have hrun : ∀ c ∈ w.takeWhile isNameChar, isNameChar c := List.all_eq_true.1 List.all_takeWhile
  obtain ⟨rest, hrest⟩ := List.takeWhile_prefix isNameChar (l := w)
  unfold ofName
  generalize w.takeWhile isNameChar = run at *
  have hdrop : w.drop run.length = rest := by rw [← hrest, List.drop_left]
  have noAxis : ¬ [':', ':'] <+: rest := by
    rintro ⟨r, rfl⟩
    -- the scan of the name would stop between the two colons
    have hstop : nameTail w = run ++ [':'] := by
      rw [← hrest]
      exact nameTail_run hrun
    rw [hscan, ← hrest] at hstop
    simp at hstop
  simp only [hdrop, List.isPrefixOf_iff_prefix, if_neg noAxis, hscan]

/-- A run of colons is a name of its own. -/
theorem ofColon_eq_verbatim {v : List Char} (hv : ∀ c ∈ v, c = ':') :
    ofColon (':' :: v) = verbatim .tag (':' :: v) := by
  have stops : v.head?.any isNameChar = false := by
    cases v with
    | nil => rfl
    | cons c v =>
      obtain rfl := hv c List.mem_cons_self
      rfl
  have hrun : (':' :: v).takeWhile (· == ':') = ':' :: v :=
    List.takeWhile_eq_self_iff.2 (by simpa using hv)
  rw [ofColon, List.tail_cons, stops, if_neg Bool.false_ne_true, hrun]

theorem readsAs_name {text : String} (h : IsName text) (hafter : EndsName after) :
    ReadsAs o text.toList after [⟨.tag, text, o⟩] := by
  rcases h with h | h
  · have hrest := mem_nameRest_of_name h
    rcases mem_name.1 h with ⟨c, v, htext, hstart, -⟩ | ⟨c, v, htext, hchar, -⟩
    · have hcs : text.toList ++ after = c :: (v ++ after) := by simp [htext]
      refine .lexeme hcs (isBlank_of_isNameStart hstart) ?_
      rw [first?_of_isNameStart hstart, ← hcs, hafter.ofName_append, ofName_eq_verbatim hrest]
      rfl
    · have hcs : text.toList ++ after = ':' :: c :: (v ++ after) := by simp [htext]
      have hscan := (hafter.nameTail_append text.toList).trans (nameTail_eq_self hrest)
      refine .lexeme hcs rfl ?_
      rw [hcs] at hscan
      simp [first?, isOperatorChar, isQuote, ofColon, hchar, hscan, verbatim]
  · obtain ⟨hne, hall⟩ := mem_colons.1 h
    obtain ⟨v, htext⟩ : ∃ v, text.toList = ':' :: v := by
      cases htext : text.toList with
      | nil => exact absurd htext hne
      | cons c v => exact ⟨v, by rw [hall c (by simp [htext])]⟩
    have hcs : text.toList ++ after = ':' :: (v ++ after) := by simp [htext]
    have hv : ∀ c ∈ v, c = ':' := fun c hc => hall c (by simp [htext, hc])
    refine .lexeme hcs rfl ?_
    rw [htext, ← verbatim, ← ofColon_eq_verbatim hv, ← hafter.ofColon_append]
    rfl

end Spellings

end WidgetLocator.Token
