import Mathlib.Computability.Language
import Mathlib.Tactic.SplitIfs
import WidgetLocator.Token.Lexer

/-! The spellings of tokens as languages over characters, one for each pattern of the token table.
The lexer's own scanners for names, axes and literals are tied to them here: each takes a prefix
that lies in its language, and every other such prefix is a part of it. -/

namespace WidgetLocator.Token

open scoped Computability

def one (p : Char → Bool) : Language Char := {w | ∃ c, p c ∧ w = [c]}

def word (cs : List Char) : Language Char := {cs}

def nameUnit : Language Char := one isNameChar + word [':'] * one isNameChar

def nameRest : Language Char := nameUnit∗ * (1 + word [':'])

def axisRun : Language Char := one isNameStart * (one isNameChar)∗

/-- One character between quotes: a backslash takes the next one with it, whatever it is. -/
def literalUnit (quote : Char) : Language Char :=
  one (fun c => c != quote && c != '\\') + word ['\\'] * one fun _ => true

/-- The texts that the quote can enclose: in them it stands only right after a backslash. -/
def enclosed (quote : Char) : Language Char := (literalUnit quote)∗

inductive Pattern where
  | doubleSlash | slash | atSign | openBracket | closeBracket | wildcard
  | operator | axis | name | colons
  | literal (quote : Char) (quotes : isQuote quote)

namespace Pattern

def language : Pattern → Language Char
  | doubleSlash => word ['/', '/']
  | slash => word ['/']
  | atSign => word ['@']
  | openBracket => word ['[']
  | closeBracket => word [']']
  | wildcard => word ['*']
  | operator => one isOperatorChar * (1 + word ['='])
  | axis => axisRun * word [':', ':']
  | name => (one isNameStart + word [':'] * one isNameChar) * nameRest
  | colons => word [':'] * (word [':'])∗
  | literal quote _ => word [quote] * enclosed quote * word [quote]

def kind : Pattern → Kind
  | doubleSlash | slash => .slash
  | atSign => .atSign
  | openBracket => .openBracket
  | closeBracket => .closeBracket
  | wildcard => .wildcard
  | operator => .operator
  | axis => .axis
  | name | colons => .tag
  | literal _ _ => .literal

/-- The text of a token that the pattern finds: an axis leaves out its colons, a literal its quotes. -/
def text : Pattern → List Char → List Char
  | axis, w => w.dropLast.dropLast
  | literal _ _, w => w.tail.dropLast
  | _, w => w

def opens : Pattern → Char → Bool
  | doubleSlash, c | slash, c => c == '/'
  | atSign, c => c == '@'
  | openBracket, c => c == '['
  | closeBracket, c => c == ']'
  | wildcard, c => c == '*'
  | operator, c => isOperatorChar c
  | axis, c => isNameStart c
  | name, c => isNameStart c || c == ':'
  | colons, c => c == ':'
  | literal quote _, c => c == quote

end Pattern

section Languages

variable {p : Char → Bool} {L : Language Char} {c d : Char} {w cs : List Char}

@[simp] theorem mem_one : w ∈ one p ↔ ∃ c, p c ∧ w = [c] := Iff.rfl

@[simp] theorem mem_word : w ∈ word cs ↔ w = cs := Iff.rfl

theorem mem_one_mul : w ∈ one p * L ↔ ∃ c v, w = c :: v ∧ p c ∧ v ∈ L := by
  simp only [Language.mem_mul, mem_one]
  constructor
  · intro h
    obtain ⟨_, ⟨c, hc, rfl⟩, v, hv, rfl⟩ := h
    exact ⟨c, v, rfl, hc, hv⟩
  · intro h
    obtain ⟨c, v, rfl, hc, hv⟩ := h
    exact ⟨[c], ⟨c, hc, rfl⟩, v, hv, rfl⟩

@[simp] theorem cons_mem_one_mul : c :: w ∈ one p * L ↔ p c ∧ w ∈ L := by
  simp [mem_one_mul]

@[simp] theorem mem_word_mul : w ∈ word cs * L ↔ ∃ v ∈ L, w = cs ++ v := by
  simp only [Language.mem_mul, mem_word]
  constructor
  · intro h
    obtain ⟨_, rfl, v, hv, rfl⟩ := h
    exact ⟨v, hv, rfl⟩
  · intro h
    obtain ⟨v, hv, rfl⟩ := h
    exact ⟨cs, rfl, v, hv, rfl⟩

theorem mem_kstar_iff : w ∈ L∗ ↔ w = [] ∨ w ∈ L * L∗ := by
  conv_lhs => rw [← Language.one_add_self_mul_kstar_eq_kstar L]
  exact Iff.rfl

@[simp] theorem mem_kstar_one : w ∈ (one p)∗ ↔ ∀ c ∈ w, p c := by
  induction w with
  | nil => simp [Language.nil_mem_kstar]
  | cons c w ih => rw [mem_kstar_iff, cons_mem_one_mul, ih]; simp

end Languages

section Names

variable {c : Char} {w cs : List Char}

theorem nameRest_eq : nameRest = 1 + word [':'] + nameUnit * nameRest := by
  conv_lhs => rw [nameRest, ← Language.one_add_self_mul_kstar_eq_kstar]
  rw [add_mul, one_mul, mul_assoc]
  rfl

theorem nil_mem_nameRest : [] ∈ nameRest := by
  rw [nameRest_eq]
  exact .inl (.inl rfl)

theorem cons_mem_nameRest : c :: w ∈ nameRest ↔ (isNameChar c ∧ w ∈ nameRest) ∨
    (c = ':' ∧ (w = [] ∨ w ∈ one isNameChar * nameRest)) := by
  conv_lhs => rw [nameRest_eq]
  simp only [nameUnit, add_mul, mul_assoc, Language.mem_add, Language.mem_one, mem_word,
    cons_mem_one_mul, mem_word_mul, List.singleton_append, List.cons.injEq, reduceCtorEq, false_or]
  constructor
  · intro hw
    rcases hw with ⟨rfl, rfl⟩ | h | ⟨v, hv, rfl, rfl⟩
    · exact .inr ⟨rfl, .inl rfl⟩
    · exact .inl h
    · exact .inr ⟨rfl, .inr hv⟩
  · intro hw
    rcases hw with h | ⟨rfl, rfl | hw⟩
    · exact .inr (.inl h)
    · exact .inl ⟨rfl, rfl⟩
    · exact .inr (.inr ⟨w, hw, rfl, rfl⟩)

theorem ne_colon_of_isNameChar (hc : isNameChar c) : c ≠ ':' := by
  rintro rfl
  exact absurd hc (by decide)

theorem nameChar_cons_mem_nameRest (hc : isNameChar c) : c :: w ∈ nameRest ↔ w ∈ nameRest := by
  simp [cons_mem_nameRest, hc, ne_colon_of_isNameChar hc]

theorem colon_cons_mem_nameRest :
    ':' :: w ∈ nameRest ↔ w = [] ∨ (w.head?.any isNameChar ∧ w ∈ nameRest) := by
  have hcolon : ¬ isNameChar ':' := by decide
  rw [cons_mem_nameRest]
  simp only [hcolon, Bool.false_eq_true, false_and, true_and, false_or]
  refine or_congr_right ?_
  cases w with
  | nil => simp [mem_one_mul]
  | cons d v =>
    simp only [cons_mem_one_mul, List.head?_cons, Option.any_some]
    exact and_congr_right fun hd => (nameChar_cons_mem_nameRest hd).symm

theorem notMem_nameRest (hc : ¬ isNameChar c) (hcolon : c ≠ ':') : c :: w ∉ nameRest := by
  simp [cons_mem_nameRest, hc, hcolon]

theorem nameTail_mem (cs : List Char) : Lexeme.nameTail cs ∈ nameRest := by
  fun_induction Lexeme.nameTail cs with
  | case1 => exact nil_mem_nameRest
  | case2 c rest hc ih => exact (nameChar_cons_mem_nameRest hc).2 ih
  | case3 rest hc ih =>
    rw [colon_cons_mem_nameRest]
    split_ifs with next
    · refine .inr ⟨?_, ih⟩
      obtain ⟨d, rest, rfl, hd⟩ : ∃ d r, rest = d :: r ∧ isNameChar d := by
        cases rest with
        | nil => simp at next
        | cons d r => exact ⟨d, r, rfl, by simpa using next⟩
      simp [Lexeme.nameTail, hd]
    · exact .inl rfl
  | case4 => exact nil_mem_nameRest

theorem nameTail_prefix_self (cs : List Char) : Lexeme.nameTail cs <+: cs := by
  fun_induction Lexeme.nameTail cs with
  | case1 => exact List.prefix_refl _
  | case2 c rest hc ih => exact (List.prefix_cons_inj c).2 ih
  | case3 rest hc ih =>
    split_ifs
    · exact (List.prefix_cons_inj ':').2 ih
    · exact (List.prefix_cons_inj ':').2 List.nil_prefix
  | case4 => exact List.nil_prefix

/-- The scan of a name goes as far as any name does. -/
theorem prefix_nameTail (hw : w ∈ nameRest) (hp : w <+: cs) : w <+: Lexeme.nameTail cs := by
  fun_induction Lexeme.nameTail cs generalizing w with
  | case1 => exact hp
  | case2 c rest hc ih =>
    cases w with
    | nil => exact List.nil_prefix
    | cons d v =>
      obtain ⟨rfl, hv⟩ := List.cons_prefix_cons.1 hp
      exact (List.prefix_cons_inj d).2 (ih ((nameChar_cons_mem_nameRest hc).1 hw) hv)
  | case3 rest hc ih =>
    cases w with
    | nil => exact List.nil_prefix
    | cons d v =>
      obtain ⟨rfl, hv⟩ := List.cons_prefix_cons.1 hp
      refine (List.prefix_cons_inj ':').2 ?_
      rcases colon_cons_mem_nameRest.1 hw with rfl | ⟨next, hv'⟩
      · exact List.nil_prefix
      · have next' : rest.head?.any isNameChar := by
          cases v with
          | nil => simp at next
          | cons e v => obtain ⟨r, rfl⟩ := hv; exact next
        rw [if_pos next']
        exact ih hv' hv
  | case4 c rest hc hcolon =>
    cases w with
    | nil => exact List.nil_prefix
    | cons d v =>
      obtain ⟨rfl, -⟩ := List.cons_prefix_cons.1 hp
      exact absurd hw (notMem_nameRest hc hcolon)

end Names

section Literals

variable {quote c : Char} {w cs body : List Char}

theorem nil_mem_enclosed : [] ∈ enclosed quote := Language.nil_mem_kstar _

theorem enclosed_eq : enclosed quote = 1 + (one (fun c => c != quote && c != '\\') * enclosed quote +
    word ['\\'] * (one (fun _ => true) * enclosed quote)) := by
  conv_lhs => rw [enclosed, ← Language.one_add_self_mul_kstar_eq_kstar]
  rw [literalUnit, add_mul, mul_assoc]
  rfl

theorem cons_mem_enclosed (hc : c ≠ '\\') :
    c :: w ∈ enclosed quote ↔ c ≠ quote ∧ w ∈ enclosed quote := by
  conv_lhs => rw [enclosed_eq]
  simp only [Language.mem_add, Language.mem_one, cons_mem_one_mul, mem_word_mul,
    List.singleton_append, List.cons.injEq]
  simp [hc]

theorem backslash_cons_mem_enclosed :
    '\\' :: w ∈ enclosed quote ↔ ∃ d v, w = d :: v ∧ v ∈ enclosed quote := by
  conv_lhs => rw [enclosed_eq]
  simp only [Language.mem_add, Language.mem_one, cons_mem_one_mul, mem_word_mul,
    List.singleton_append, List.cons.injEq]
  simp [mem_one_mul]

theorem ne_backslash_of_isQuote (hq : isQuote quote) : quote ≠ '\\' := by
  rintro rfl
  exact absurd hq (by decide)

/-- The scan of a literal stops at the first quote that no backslash escapes. -/
theorem literalBody?_eq_some_iff (hq : isQuote quote) :
    Lexeme.literalBody? quote cs = some body ↔ body ∈ enclosed quote ∧ body ++ [quote] <+: cs := by
  have hne := ne_backslash_of_isQuote hq
  fun_induction Lexeme.literalBody? quote cs generalizing body with
  | case1 => simp
  | case2 c rest ih =>
    rw [Option.map_eq_some_iff]
    constructor
    · intro h
      obtain ⟨v, hv, rfl⟩ := h
      obtain ⟨hv, hp⟩ := ih.1 hv
      exact ⟨backslash_cons_mem_enclosed.2 ⟨c, v, rfl, hv⟩, by simpa using hp⟩
    · intro h
      obtain ⟨hb, hp⟩ := h
      cases body with
      | nil => exact absurd (List.cons_prefix_cons.1 hp).1 hne
      | cons d v =>
        obtain ⟨rfl, hp₁⟩ := List.cons_prefix_cons.1 hp
        obtain ⟨e, v, rfl, hv⟩ := backslash_cons_mem_enclosed.1 hb
        obtain ⟨rfl, hp₂⟩ := List.cons_prefix_cons.1 hp₁
        exact ⟨v, ih.2 ⟨hv, hp₂⟩, rfl⟩
  | case3 rest =>
    constructor
    · rintro ⟨⟩
      exact ⟨nil_mem_enclosed, by simp⟩
    · intro h
      obtain ⟨hb, hp⟩ := h
      cases body with
      | nil => rfl
      | cons d v =>
        obtain ⟨rfl, -⟩ := List.cons_prefix_cons.1 hp
        exact absurd rfl ((cons_mem_enclosed hne).1 hb).1
  | case4 c rest lone hc ih =>
    rw [Option.map_eq_some_iff]
    by_cases escape : c = '\\'
    · -- a backslash comes here only at the end of the text, where nothing can close the literal
      have hrest : rest = [] := by
        cases rest with
        | nil => rfl
        | cons d r => exact (lone d r escape rfl).elim
      subst hrest
      cases body <;> simp [Lexeme.literalBody?, Ne.symm hc]
    · constructor
      · intro h
        obtain ⟨v, hv, rfl⟩ := h
        obtain ⟨hv, hp⟩ := ih.1 hv
        exact ⟨(cons_mem_enclosed escape).2 ⟨hc, hv⟩, by simpa using hp⟩
      · intro h
        obtain ⟨hb, hp⟩ := h
        cases body with
        | nil => exact absurd (List.cons_prefix_cons.1 hp).1.symm hc
        | cons d v =>
          obtain ⟨rfl, hp₁⟩ := List.cons_prefix_cons.1 hp
          exact ⟨v, ih.2 ⟨((cons_mem_enclosed escape).1 hb).2, hp₁⟩, rfl⟩

end Literals

section Rows

variable {p q : Pattern} {c : Char} {w v : List Char}

theorem isNameChar_of_isNameStart (hc : isNameStart c) : isNameChar c := by
  simp only [isNameStart, Bool.and_eq_true] at hc
  exact hc.1

theorem mem_axisRun : w ∈ axisRun ↔ (∃ c ∈ w.head?, isNameStart c) ∧ ∀ c ∈ w, isNameChar c := by
  rw [axisRun, mem_one_mul]
  constructor
  · intro h
    obtain ⟨c, v, rfl, hc, hv⟩ := h
    rw [mem_kstar_one] at hv
    exact ⟨⟨c, rfl, hc⟩, List.forall_mem_cons.2 ⟨isNameChar_of_isNameStart hc, hv⟩⟩
  · intro hw
    obtain ⟨⟨c, hc, hstart⟩, h⟩ := hw
    cases w with
    | nil => cases hc
    | cons d v =>
      obtain rfl := Option.some.inj hc
      exact ⟨d, v, rfl, hstart, mem_kstar_one.2 fun e he => h e (List.mem_cons_of_mem _ he)⟩

theorem mem_axis : w ∈ Pattern.axis.language ↔ ∃ r ∈ axisRun, w = r ++ [':', ':'] := by
  simp only [Pattern.language, Language.mem_mul, mem_word]
  constructor
  · intro h
    obtain ⟨r, hr, _, rfl, rfl⟩ := h
    exact ⟨r, hr, rfl⟩
  · intro h
    obtain ⟨r, hr, rfl⟩ := h
    exact ⟨r, hr, _, rfl, rfl⟩

theorem Pattern.text_axis (r : List Char) : Pattern.axis.text (r ++ [':', ':']) = r := by
  simp [Pattern.text]

theorem mem_name : w ∈ Pattern.name.language ↔
    (∃ c v, w = c :: v ∧ isNameStart c ∧ v ∈ nameRest) ∨
      ∃ c v, w = ':' :: c :: v ∧ isNameChar c ∧ v ∈ nameRest := by
  simp only [Pattern.language, add_mul, mul_assoc, Language.mem_add, mem_one_mul, mem_word_mul]
  refine or_congr_right ⟨?_, ?_⟩
  · intro h
    obtain ⟨_, ⟨c, v, rfl, hc, hv⟩, rfl⟩ := h
    exact ⟨c, v, rfl, hc, hv⟩
  · intro h
    obtain ⟨c, v, rfl, hc, hv⟩ := h
    exact ⟨_, ⟨c, v, rfl, hc, hv⟩, rfl⟩

theorem mem_nameRest_of_name (h : w ∈ Pattern.name.language) : w ∈ nameRest := by
  rcases mem_name.1 h with ⟨c, v, rfl, hc, hv⟩ | ⟨c, v, rfl, hc, hv⟩
  · exact (nameChar_cons_mem_nameRest (isNameChar_of_isNameStart hc)).2 hv
  · exact colon_cons_mem_nameRest.2 (.inr ⟨hc, (nameChar_cons_mem_nameRest hc).2 hv⟩)

theorem mem_colons : w ∈ Pattern.colons.language ↔ w ≠ [] ∧ ∀ c ∈ w, c = ':' := by
  have hword : word [':'] = one (· == ':') := by
    ext w
    simp
  rw [Pattern.language, hword, mem_one_mul]
  constructor
  · intro h
    obtain ⟨c, v, rfl, hc, hv⟩ := h
    rw [mem_kstar_one] at hv
    exact ⟨by simp, List.forall_mem_cons.2 ⟨by simpa using hc, by simpa using hv⟩⟩
  · intro hw
    obtain ⟨hne, h⟩ := hw
    cases w with
    | nil => exact absurd rfl hne
    | cons c v =>
      obtain ⟨hc, hv⟩ := List.forall_mem_cons.1 h
      exact ⟨c, v, rfl, by simpa using hc, mem_kstar_one.2 (by simpa using hv)⟩

theorem mem_operator : w ∈ Pattern.operator.language ↔
    ∃ c, isOperatorChar c ∧ (w = [c] ∨ w = [c, '=']) := by
  simp only [Pattern.language, mem_one_mul, Language.mem_add, Language.mem_one, mem_word]
  constructor
  · intro h
    obtain ⟨c, _, rfl, hc, rfl | rfl⟩ := h
    · exact ⟨c, hc, .inl rfl⟩
    · exact ⟨c, hc, .inr rfl⟩
  · intro h
    obtain ⟨c, hc, rfl | rfl⟩ := h
    · exact ⟨c, _, rfl, hc, .inl rfl⟩
    · exact ⟨c, _, rfl, hc, .inr rfl⟩

theorem mem_literal {quote : Char} {quotes : isQuote quote} :
    w ∈ (Pattern.literal quote quotes).language ↔ ∃ v ∈ enclosed quote, w = quote :: v ++ [quote] := by
  rw [Pattern.language, mul_assoc, mem_word_mul]
  simp only [Language.mem_mul, mem_word]
  constructor
  · intro h
    obtain ⟨_, ⟨v, hv, _, rfl, rfl⟩, rfl⟩ := h
    exact ⟨v, hv, rfl⟩
  · intro h
    obtain ⟨v, hv, rfl⟩ := h
    exact ⟨_, ⟨v, hv, _, rfl, rfl⟩, rfl⟩

theorem Pattern.text_literal {quote : Char} (quotes : isQuote quote) (body : List Char) :
    (Pattern.literal quote quotes).text (quote :: body ++ [quote]) = body := by
  simp [Pattern.text]

theorem Pattern.exists_head {p : Pattern} (h : w ∈ p.language) : ∃ c v, w = c :: v ∧ p.opens c := by
  cases p with
  | doubleSlash | slash | atSign | openBracket | closeBracket | wildcard =>
    obtain rfl := mem_word.1 h
    exact ⟨_, _, rfl, rfl⟩
  | operator =>
    obtain ⟨c, hc, rfl | rfl⟩ := mem_operator.1 h
    · exact ⟨c, _, rfl, hc⟩
    · exact ⟨c, _, rfl, hc⟩
  | axis =>
    obtain ⟨r, hr, rfl⟩ := mem_axis.1 h
    obtain ⟨c, v, rfl, hc, -⟩ := mem_one_mul.1 hr
    exact ⟨c, _, rfl, hc⟩
  | name =>
    rcases mem_name.1 h with ⟨c, v, rfl, hc, -⟩ | ⟨c, v, rfl, -⟩
    · exact ⟨c, _, rfl, by simp [opens, hc]⟩
    · exact ⟨_, _, rfl, by simp [opens]⟩
  | colons =>
    obtain ⟨hne, hall⟩ := mem_colons.1 h
    cases w with
    | nil => exact absurd rfl hne
    | cons c v => exact ⟨c, v, rfl, by simpa [opens] using hall c List.mem_cons_self⟩
  | literal quote quotes =>
    obtain ⟨v, -, rfl⟩ := mem_literal.1 h
    exact ⟨quote, _, rfl, by simp [opens]⟩

theorem Pattern.kind_ne (p : Pattern) : p.kind ≠ .finish ∧ p.kind ≠ .namespaceName := by
  cases p <;> exact ⟨nofun, nofun⟩

theorem Pattern.text_eq_of_kind_eq (h : p.kind = q.kind) (w : List Char) : p.text w = q.text w := by
  cases p <;> cases q <;> first | rfl | cases h

theorem Pattern.eq_axis_of_kind (h : p.kind = .axis) : p = .axis := by
  cases p <;> first | rfl | cases h

theorem Pattern.name_or_colons_of_kind (h : p.kind = .tag) : p = .name ∨ p = .colons := by
  cases p <;> first | exact .inl rfl | exact .inr rfl | cases h

end Rows

end WidgetLocator.Token
