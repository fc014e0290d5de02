import WidgetLocator.Proofs.Token.Adjacent
import WidgetLocator.Proofs.Token.Recognition

/-! Texts that are written token by token. Each token is spelled, a literal in a quote that can stand
around it, and blanks are put between the spellings. Reading undoes this: it gives the same tokens,
at the places where they were written. Every token that is ever read can be written. -/

namespace WidgetLocator.Token

open Text Lexeme

/-- The quote can stand around the text: all quotes of its kind in the text are escaped, and the text
escapes nothing after it. -/
structure Encloses (quote : Char) (text : List Char) : Prop where
  quotes : isQuote quote
  escaped : ∀ b, b ++ [quote] <+: text → escapes b
  ended : escapes text = false

/-- The texts of tokens of a kind. The quote is the one around a literal. -/
def Allowed (quote : Char) (text : String) : Kind → Prop
  | .tag => IsName text
  | .axis => text.toList ∈ axisRun
  | .literal => Encloses quote text.toList
  | .operator => ∃ c, isOperatorChar c ∧ (text.toList = [c] ∨ text.toList = [c, '='])
  | .slash => text = "/" ∨ text = "//"
  | .atSign => text = "@"
  | .openBracket => text = "["
  | .closeBracket => text = "]"
  | .wildcard => text = "*"
  | .namespaceName | .finish => False

/-- What a token is apart from its offset. -/
def content (t : Token) : Kind × String := (t.kind, t.text)

/-- A token to be written, with the blanks before it and the quote for a literal. -/
structure Word where
  gap : List Char
  kind : Kind
  text : String
  quote : Char

namespace Word

def spelling (w : Word) : List Char :=
  match w.kind with
  | .literal => w.quote :: w.text.toList ++ [w.quote]
  | .axis => w.text.toList ++ [':', ':']
  | _ => w.text.toList

def Valid (w : Word) : Prop := Allowed w.quote w.text w.kind

def written (ws : List Word) : List Char := ws.flatMap fun w => w.gap ++ w.spelling

def source (ws : List Word) (last : List Char) : String := String.ofList (written ws ++ last)

/-- The tokens of the words, each at the offset at which its spelling begins. -/
def standing (ws : List Word) : List Token :=
  ws.mapIdx fun i w => ⟨w.kind, w.text, String.utf8Len (written (ws.take i) ++ w.gap)⟩

def tokens (ws : List Word) (last : List Char) : List Token :=
  standing ws ++ [endAt (source ws last).utf8ByteSize]

/-- There are blanks between the words, and perhaps before the first and after the last. -/
structure Spaced (ws : List Word) (last : List Char) : Prop where
  blank : ∀ w ∈ ws, ∀ c ∈ w.gap, isBlank c
  apart : ∀ w ∈ ws.tail, w.gap ≠ []
  last_blank : ∀ c ∈ last, isBlank c

end Word

/-- The words have the kinds and the texts of the tokens, in quotes that fit. -/
structure Respells (ws : List Word) (ts : List Token) : Prop where
  same : ws.map (fun w => (w.kind, w.text)) = ts.map content
  quotes : ∀ w ∈ ws, w.kind = .literal → Encloses w.quote w.text.toList

section Validity

variable {quote : Char} {text : String} {p : Pattern} {cs : List Char}

theorem encloses_iff (hq : isQuote quote) : Encloses quote cs ↔ cs ∈ enclosed quote := by
  rw [mem_enclosed_iff hq]
  exact ⟨fun h => ⟨h.ended, h.escaped⟩, fun h => ⟨hq, h.2, h.1⟩⟩

/-- The quote matters for a literal only. -/
theorem allowed_congr {kind : Kind} {quote quote' : Char} {text : String} (h : kind ≠ .literal) :
    Allowed quote text kind ↔ Allowed quote' text kind := by
  cases kind <;> first | rfl | exact absurd rfl h

theorem Word.Valid.exists_pattern {w : Word} (h : w.Valid) : ∃ p : Pattern,
    w.spelling ∈ p.language ∧ p.kind = w.kind ∧ p.text w.spelling = w.text.toList := by
  obtain ⟨gap, kind, text, quote⟩ := w
  unfold Valid Allowed at h
  cases kind with
  | tag =>
    rcases h with h | h
    · exact ⟨.name, h, rfl, rfl⟩
    · exact ⟨.colons, h, rfl, rfl⟩
  | axis => exact ⟨.axis, mem_axis.2 ⟨_, h, rfl⟩, rfl, Pattern.text_axis _⟩
  | literal =>
    have hbody : text.toList ∈ enclosed quote := (encloses_iff h.quotes).1 h
    exact ⟨.literal quote h.quotes, mem_literal.2 ⟨_, hbody, rfl⟩, rfl, Pattern.text_literal h.quotes _⟩
  | operator => exact ⟨.operator, mem_operator.2 h, rfl, rfl⟩
  | slash =>
    rcases h with rfl | rfl
    · exact ⟨.slash, by simp [Word.spelling, Pattern.language], rfl, rfl⟩
    · exact ⟨.doubleSlash, by simp [Word.spelling, Pattern.language], rfl, rfl⟩
  | atSign => subst h; exact ⟨.atSign, by simp [Word.spelling, Pattern.language], rfl, rfl⟩
  | openBracket => subst h; exact ⟨.openBracket, by simp [Word.spelling, Pattern.language], rfl, rfl⟩
  | closeBracket => subst h; exact ⟨.closeBracket, by simp [Word.spelling, Pattern.language], rfl, rfl⟩
  | wildcard => subst h; exact ⟨.wildcard, by simp [Word.spelling, Pattern.language], rfl, rfl⟩
  | namespaceName | finish => cases h

theorem exists_allowed (h : cs ∈ p.language) (htext : p.text cs = text.toList) :
    ∃ quote, Allowed quote text p.kind := by
  have fixed {s : String} (hs : text.toList = s.toList) : text = s := String.toList_inj.1 hs
  cases p with
  | literal quote quotes =>
    obtain ⟨body, hbody, rfl⟩ := mem_literal.1 h
    rw [Pattern.text_literal] at htext
    exact ⟨quote, show Encloses quote text.toList from htext ▸ (encloses_iff quotes).2 hbody⟩
  | axis =>
    obtain ⟨r, hr, rfl⟩ := mem_axis.1 h
    rw [Pattern.text_axis] at htext
    exact ⟨' ', show text.toList ∈ axisRun from htext ▸ hr⟩
  | name => exact ⟨' ', .inl (htext ▸ h)⟩
  | colons => exact ⟨' ', .inr (htext ▸ h)⟩
  | operator =>
    obtain ⟨c, hc, hcs⟩ := mem_operator.1 h
    exact ⟨' ', c, hc, htext ▸ hcs⟩
  | doubleSlash => exact ⟨' ', .inr (fixed (htext.symm.trans h))⟩
  | slash => exact ⟨' ', .inl (fixed (htext.symm.trans h))⟩
  | atSign | openBracket | closeBracket | wildcard => exact ⟨' ', fixed (htext.symm.trans h)⟩

end Validity

namespace Word

section Reading

variable {o : Nat} {w : Word} {ws : List Word} {after last : List Char}

theorem written_append (ws : List Word) (w : Word) :
    written (ws ++ [w]) = written ws ++ (w.gap ++ w.spelling) := by
  simp [written]

theorem standing_append (ws : List Word) (w : Word) : standing (ws ++ [w]) =
    standing ws ++ [⟨w.kind, w.text, String.utf8Len (written ws ++ w.gap)⟩] := by
  unfold standing
  rw [List.mapIdx_concat, List.take_left]
  congr 1
  refine List.mapIdx_eq_mapIdx_iff.2 fun i hi => ?_
  rw [List.take_append_of_le_length hi.le]

theorem map_standing (ws : List Word) :
    (standing ws).map content = ws.map fun w => (w.kind, w.text) := by
  refine List.ext_getElem? fun i => ?_
  simp [standing, content, Function.comp_def]

/-- A spelling before a blank is read as its token. -/
theorem Valid.readsAs (h : w.Valid) (hafter : BlankNext after) :
    ReadsAs o w.spelling after [⟨w.kind, w.text, o⟩] := by
  obtain ⟨p, hp, hkind, htext⟩ := h.exists_pattern
  obtain ⟨c, v, hcv, hopens⟩ := p.exists_head hp
  rw [hcv] at hp
  have hfirst := hafter.first?_append (first?_spelling hp)
  rw [← hcv, hkind, htext] at hfirst
  exact .lexeme (by rw [hcv, List.cons_append]) (isBlank_of_opens hopens) hfirst

theorem readsAs_written (hvalid : ∀ w ∈ ws, w.Valid) (hblank : ∀ w ∈ ws, ∀ c ∈ w.gap, isBlank c)
    (hapart : ∀ w ∈ ws.tail, w.gap ≠ []) (hafter : BlankNext after) :
    ReadsAs 0 (written ws) after (standing ws) := by
  induction ws using List.reverseRecOn generalizing after with
  | nil => exact .nil
  | append_singleton ws w ih =>
    obtain ⟨hvalid, hw⟩ := List.forall_mem_append.1 hvalid
    obtain ⟨hblank, hgap⟩ := List.forall_mem_append.1 hblank
    have hws : ReadsAs 0 (written ws) (w.gap ++ w.spelling ++ after) (standing ws) := by
      cases ws with
      | nil => exact .nil
      | cons v ws =>
        obtain ⟨hapart, hlast⟩ := List.forall_mem_append.1 hapart
        rw [List.append_assoc]
        exact ih hvalid hblank hapart (blankNext_append (hlast w (by simp)) (hgap w (by simp)) _)
    rw [written_append, standing_append]
    refine hws.append ?_
    have hword :=
      (hw w (by simp)).readsAs (o := 0 + String.utf8Len (written ws) + String.utf8Len w.gap) hafter
    rw [String.utf8Len_append, ← Nat.zero_add (String.utf8Len (written ws) + String.utf8Len w.gap),
      ← Nat.add_assoc]
    exact (ReadsAs.blanks (hgap w (by simp)) _ _).append hword

theorem tokenize_source (hvalid : ∀ w ∈ ws, w.Valid) (h : Spaced ws last) :
    tokenize (source ws last) = .ok (tokens ws last) := by
  have hlast : BlankNext last := fun c hc => h.last_blank c (List.mem_of_mem_head? hc)
  have hwords := readsAs_written hvalid h.blank h.apart hlast
  have hblanks := ReadsAs.blanks h.last_blank (0 + String.utf8Len (written ws)) []
  refine scan_eq_ok_iff.2 ?_
  rw [tokens, source, String.toList_ofList, String.utf8ByteSize_ofList]
  refine hwords _ ?_
  have hfinish := hblanks _ .finish
  rwa [List.append_nil, Nat.add_assoc, ← String.utf8Len_append,
    Nat.zero_add (String.utf8Len (_ ++ _))] at hfinish

end Reading

end Word

/-- Every token that is read is one that can be written. -/
theorem allowed_of_tokenize {source : String} {ts : List Token} (h : tokenize source = .ok ts) :
    ∃ us, ts = us ++ [endAt source.utf8ByteSize] ∧ ∀ t ∈ us, ∃ quote, Allowed quote t.text t.kind := by
  obtain ⟨ps, last, hps, -, rfl⟩ := exists_layout_of_tokenize h
  refine ⟨ps.map (·.token), rfl, fun t ht => ?_⟩
  obtain ⟨p, hp, rfl⟩ := List.mem_map.1 ht
  obtain ⟨after, hlongest⟩ := hps.longest hp
  obtain ⟨q, hq, hkind, htext⟩ := hlongest.found
  have hkind' : q.kind = p.token.kind := hkind
  exact hkind' ▸ exists_allowed hq htext

theorem Respells.valid {ws : List Word} {us : List Token} (h : Respells ws us)
    (hus : ∀ t ∈ us, ∃ quote, Allowed quote t.text t.kind) :
    ∀ w ∈ ws, w.Valid := by
  intro w hw
  unfold Word.Valid
  by_cases hliteral : w.kind = .literal
  · rw [hliteral]
    exact h.quotes w hw hliteral
  · have hmem : (w.kind, w.text) ∈ us.map content := h.same ▸ List.mem_map_of_mem hw
    obtain ⟨t, ht, hpair⟩ := List.mem_map.1 hmem
    obtain ⟨hkind, htext⟩ := Prod.mk.inj hpair
    obtain ⟨quote, hallowed⟩ := hus t ht
    rw [hkind, htext] at hallowed
    exact (allowed_congr hliteral).1 hallowed

end WidgetLocator.Token
