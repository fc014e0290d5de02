import WidgetLocator.Format.Json
import WidgetLocator.Proofs.Format.JsonReading
import WidgetLocator.Proofs.Path.Printer
import WidgetLocator.Proofs.Path.Segment

/-! JSON texts are read back. Whatever a value holds, its text stands for that value and no other, at
any depth, at any indent and in front of anything that can follow a value. -/

namespace WidgetLocator.Json

open WidgetLocator.Path Text

section Blanks

variable {c : Char} {cs blanks : List Char}

theorem skip_append (h : ∀ c ∈ blanks, isBlank c) (cs : List Char) : skip (blanks ++ cs) = skip cs :=
  List.dropWhile_append_of_pos h

theorem skip_cons (hc : isBlank c = false) (cs : List Char) : skip (c :: cs) = c :: cs :=
  List.dropWhile_cons_of_neg (by simp [hc])

theorem isBlank_of_mem_lineAt {indent depth : Nat} : ∀ c ∈ lineAt indent depth, isBlank c := by
  intro c hc
  obtain rfl | hc := List.mem_cons.1 hc
  · decide
  · rw [List.eq_of_mem_replicate hc]
    decide

theorem skip_space (cs : List Char) : skip (' ' :: cs) = skip cs := rfl

@[simp] theorem skip_lineAt (indent depth : Nat) (cs : List Char) :
    skip (lineAt indent depth ++ cs) = skip cs := skip_append isBlank_of_mem_lineAt cs

end Blanks

section Strings

variable {c : Char} {cs rest : List Char}

theorem readChars_escape (h : readEscape cs = some (c, rest)) :
    readChars ('\\' :: cs) = (readChars rest).map fun (text, rest) => (c :: text, rest) := by
  rw [readChars]
  split
  · next hnone => rw [h] at hnone; cases hnone
  · next hsome => rw [h] at hsome; cases hsome; rfl

theorem readChars_cons (hquote : c ≠ '"') (hslash : c ≠ '\\') (hcontrol : ¬ c.toNat < 0x20) :
    readChars (c :: cs) = (readChars cs).map fun (text, rest) => (c :: text, rest) := by
  rw [readChars, if_neg hcontrol]
  · exact hquote
  · exact hslash

theorem numeral?_fourDigits : ∀ n < 0x20, (fourDigits n).length = 4 ∧ numeral? 16 (fourDigits n) = some n := by
  decide +kernel

theorem readUnit_fourDigits {n : Nat} (hn : n < 0x20) (rest : List Char) :
    readUnit (fourDigits n ++ rest) = some (n, rest) := by
  obtain ⟨hlength, hvalue⟩ := numeral?_fourDigits n hn
  rw [readUnit, if_neg (by rw [List.length_append]; omega), ← hlength, List.take_left, List.drop_left,
    hvalue, Option.map_some]

theorem readCodePoint_fourDigits (hc : c.toNat < 0x20) (rest : List Char) :
    readCodePoint (fourDigits c.toNat ++ rest) = some (c, rest) := by
  simp [readCodePoint, readUnit_fourDigits hc, show c.toNat.isValidChar from c.valid, Char.ofNat_toNat]

theorem escapeChar_cases (c : Char) :
    (∃ w, escapeChar c = '\\' :: w ∧ ∀ rest, readEscape (w ++ rest) = some (c, rest)) ∨
      escapeChar c = [c] ∧ c ≠ '"' ∧ c ≠ '\\' ∧ ¬ c.toNat < 0x20 := by
  by_cases hescape : c ∈ ['"', '\\', '\x08', '\x0c', '\n', '\r', '\t']
  · left
    simp only [List.mem_cons, List.not_mem_nil, or_false] at hescape
    rcases hescape with rfl | rfl | rfl | rfl | rfl | rfl | rfl <;> exact ⟨_, rfl, fun _ => rfl⟩
  simp only [List.mem_cons, List.not_mem_nil, or_false, not_or] at hescape
  obtain ⟨hquote, hslash, hb, hf, hn, hr, ht⟩ := hescape
  simp only [escapeChar, if_neg hquote, if_neg hslash, if_neg hb, if_neg hf, if_neg hn, if_neg hr, if_neg ht]
  by_cases hcontrol : c.toNat < 0x20
  · rw [if_pos hcontrol]
    exact .inl ⟨'u' :: fourDigits c.toNat, rfl, readCodePoint_fourDigits hcontrol⟩
  · rw [if_neg hcontrol]
    exact .inr ⟨rfl, hquote, hslash, hcontrol⟩

theorem readChars_escapeChar (c : Char) (rest : List Char) :
    readChars (escapeChar c ++ rest) = (readChars rest).map fun (text, rest) => (c :: text, rest) := by
  obtain ⟨w, hw, hread⟩ | ⟨hself, hquote, hslash, hcontrol⟩ := escapeChar_cases c
  · rw [hw, List.cons_append, readChars_escape (hread rest)]
  · rw [hself, List.singleton_append, readChars_cons hquote hslash hcontrol]

theorem readChars_flatMap (cs rest : List Char) :
    readChars (cs.flatMap escapeChar ++ '"' :: rest) = some (cs, rest) := by
  induction cs with
  | nil => rw [List.flatMap_nil, List.nil_append, readChars]
  | cons c cs ih => rw [List.flatMap_cons, List.append_assoc, readChars_escapeChar, ih, Option.map_some]

theorem readString_escaped (s : String) (rest : List Char) :
    readString (s.toList.flatMap escapeChar ++ '"' :: rest) = some (s, rest) := by
  simp [readString, readChars_flatMap]

theorem stringText_append (s : String) (rest : List Char) :
    stringText s ++ rest = '"' :: (s.toList.flatMap escapeChar ++ '"' :: rest) := by
  simp [stringText]

end Strings

section Numbers

/-- What can follow an entry: a comma, a line break or nothing at all. -/
def EndsEntry (rest : List Char) : Prop := ∀ c ∈ rest.head?, c = ',' ∨ c = '\n'

theorem endsEntry_nil : EndsEntry [] := by simp [EndsEntry]

theorem endsEntry_comma (rest : List Char) : EndsEntry (',' :: rest) := by simp [EndsEntry]

theorem endsEntry_lineAt (indent depth : Nat) (rest : List Char) :
    EndsEntry (lineAt indent depth ++ rest) := by simp [EndsEntry, lineAt]

variable {rest : List Char}

theorem EndsEntry.eq_false (h : EndsEntry rest) {p : Char → Bool} (hcomma : p ',' = false)
    (hline : p '\n' = false) : ∀ c ∈ rest.head?, p c = false := by
  intro c hc
  obtain rfl | rfl := h c hc
  · exact hcomma
  · exact hline

theorem head?_toDigits {n : Nat} (hn : n ≠ 0) : (Nat.toDigits 10 n).head? ≠ some '0' := by
  induction n using Nat.strongRecOn with
  | ind n ih =>
    by_cases hlt : n < 10
    · have hdigits : ∀ m < 10, m ≠ 0 → (Nat.toDigits 10 m).head? ≠ some '0' := by decide
      exact hdigits n hlt hn
    · rw [Nat.toDigits_of_base_le (by decide) (by omega), List.head?_append_of_ne_nil _ Nat.toDigits_ne_nil]
      -- the first digit is the first one of the quotient, which is not zero either
      exact ih (n / 10) (by omega) (by omega)

theorem readNat_toDigits (h : EndsEntry rest) (n : Nat) :
    readNat (Nat.toDigits 10 n ++ rest) = some (n, rest) := by
  have hrun : run? Char.isDigit (Nat.toDigits 10 n ++ rest) = some (Nat.toDigits 10 n, rest) :=
    run?_eq_some_iff.2 ⟨rfl, Nat.toDigits_ne_nil, isDigit_of_mem_toDigits, h.eq_false rfl rfl⟩
  have hzero : ¬ ((Nat.toDigits 10 n).head? = some '0' ∧ Nat.toDigits 10 n ≠ ['0']) := by
    rintro ⟨hhead, hne⟩
    by_cases hn : n = 0
    · subst hn
      exact hne rfl
    · exact head?_toDigits hn hhead
  rw [readNat, hrun, Option.bind_some]
  dsimp only
  rw [if_neg hzero, decimalValue_toDigits]

theorem exists_toDigits (n : Nat) : ∃ d ds, Nat.toDigits 10 n = d :: ds ∧ d.isDigit := by
  obtain ⟨d, ds, hds⟩ := List.exists_cons_of_ne_nil (Nat.toDigits_ne_nil : Nat.toDigits 10 n ≠ [])
  exact ⟨d, ds, hds, isDigit_of_mem_toDigits d (hds ▸ List.mem_cons_self)⟩

theorem intText_ofNat (n : Nat) : intText (.ofNat n) = Nat.toDigits 10 n := by
  show (Nat.repr n).toList = _
  rw [Nat.repr_eq_ofList_toDigits, String.toList_ofList]

theorem intText_negSucc (n : Nat) : intText (.negSucc n) = '-' :: Nat.toDigits 10 (n + 1) := by
  show ("-" ++ Nat.repr (n + 1)).toList = _
  simp [Nat.repr_eq_ofList_toDigits]

theorem exists_intText (n : Int) : ∃ c cs, intText n = c :: cs ∧ (c = '-' ∨ c.isDigit) := by
  cases n with
  | ofNat n =>
    obtain ⟨d, ds, hds, hd⟩ := exists_toDigits n
    exact ⟨d, ds, (intText_ofNat n).trans hds, .inr hd⟩
  | negSucc n => exact ⟨_, _, intText_negSucc n, .inl rfl⟩

theorem ne_of_intStart {c d : Char} (hc : c = '-' ∨ c.isDigit) (hd : d ≠ '-' ∧ d.isDigit = false) :
    c ≠ d := by
  rintro rfl
  simp [hd] at hc

theorem readInt_intText (h : EndsEntry rest) (n : Int) : readInt (intText n ++ rest) = some (n, rest) := by
  cases n with
  | ofNat n =>
    obtain ⟨d, ds, hds, hd⟩ := exists_toDigits n
    have hsign : d ≠ '-' := by
      rintro rfl
      cases hd
    have hread := readNat_toDigits h n
    rw [intText_ofNat]
    rw [hds, List.cons_append] at hread ⊢
    rw [readInt, hread]
    · rfl
    · exact fun _ hcons => hsign (List.cons.inj hcons).1
  | negSucc n =>
    rw [intText_negSucc, List.cons_append, readInt, readNat_toDigits h]
    rfl

theorem readScalar_intText (h : EndsEntry rest) (n : Int) :
    readScalar (intText n ++ rest) = some (.int n, rest) := by
  have hread := readInt_intText h n
  obtain ⟨c, cs, hcs, hc⟩ := exists_intText n
  rw [hcs, List.cons_append] at hread ⊢
  rw [readScalar, hread]
  · rfl
  all_goals exact fun _ hcons => ne_of_intStart hc (by decide) (List.cons.inj hcons).1

end Numbers

section Rows

variable {α : Type} {readEntry : Reader α} {print : α → List Char} {close : Char} {entries : List α}
  {indent depth : Nat}

theorem sublist_intercalate {sep l : List Char} {ls : List (List Char)} (hl : l ∈ ls) :
    l.Sublist (sep.intercalate ls) := by
  induction ls with
  | nil => cases hl
  | cons m ls ih =>
    by_cases hls : ls = []
    · subst hls
      rw [List.mem_singleton.1 hl, List.intercalate_singleton]
    rw [List.intercalate_cons_of_ne_nil hls]
    obtain rfl | hl := List.mem_cons.1 hl
    · exact (List.sublist_append_left _ _).trans (List.sublist_append_left _ _)
    · exact (ih hl).trans (List.sublist_append_right _ _)

theorem length_le_intercalate {c : Char} {ls : List (List Char)} :
    ls.length ≤ ([c].intercalate ls).length + 1 := by
  induction ls with
  | nil => exact Nat.zero_le _
  | cons l ls ih =>
    by_cases hls : ls = []
    · subst hls
      exact Nat.le_add_left _ _
    rw [List.intercalate_cons_of_ne_nil hls]
    simp only [List.length_cons, List.length_append, List.length_nil]
    omega

/-- Entries on lines of their own with commas between them, up to the closing character. -/
def rowText (indent depth : Nat) (print : α → List Char) (close : Char) (entries : List α) : List Char :=
  [','].intercalate (entries.map fun e => lineAt indent (depth + 1) ++ print e) ++
    ((if entries.isEmpty then [] else lineAt indent depth) ++ [close])

theorem length_lt_rowText {e : α} (he : e ∈ entries) :
    (print e).length < (rowText indent depth print close entries).length := by
  have hmem : lineAt indent (depth + 1) ++ print e ∈
      entries.map fun e => lineAt indent (depth + 1) ++ print e := List.mem_map_of_mem he
  have hle : (lineAt indent (depth + 1) ++ print e).length ≤ ([','].intercalate _).length :=
    (sublist_intercalate hmem).length_le
  rw [rowText]
  simp only [List.length_append, List.length_singleton] at hle ⊢
  omega

def Opens (cs : List Char) : Prop := ∃ c rest, cs = c :: rest ∧ isBlank c = false ∧ c ∉ [']', '\x7d']

theorem separate_of_closing (h : close ∈ [']', '\x7d']) : isBlank close = false ∧ close ≠ ',' := by
  simp only [List.mem_cons, List.not_mem_nil, or_false] at h
  rcases h with rfl | rfl <;> decide

theorem readRow_intercalate (hclose : close ∈ [']', '\x7d'])
    (hread : ∀ e ∈ entries, ∀ rest, EndsEntry rest → readEntry (print e ++ rest) = some (e, rest))
    (hne : entries ≠ []) {fuel : Nat} (hfuel : entries.length ≤ fuel) (rest : List Char) :
    readRow readEntry close fuel
        ([','].intercalate (entries.map print) ++ (lineAt indent depth ++ close :: rest)) =
      some (entries, rest) := by
  obtain ⟨hblank, hcomma⟩ := separate_of_closing hclose
  induction entries generalizing fuel with
  | nil => exact absurd rfl hne
  | cons e es ih =>
    obtain ⟨he, hes⟩ := List.forall_mem_cons.1 hread
    obtain ⟨fuel, rfl⟩ : ∃ n, fuel = n + 1 := ⟨fuel - 1, by rw [List.length_cons] at hfuel; omega⟩
    by_cases hlast : es = []
    · subst hlast
      rw [List.map_singleton, List.intercalate_singleton, readRow, he _ (endsEntry_lineAt _ _ _)]
      simp [skip_cons hblank]
    · have hmap : es.map print ≠ [] := by simpa using hlast
      rw [List.map_cons, List.intercalate_cons_of_ne_nil hmap, List.append_assoc, List.append_assoc,
        List.singleton_append, readRow, he _ (endsEntry_comma _)]
      have hnext : isBlank ',' = false := by decide
      simp [skip_cons hnext, ih hes hlast (Nat.le_of_succ_le_succ hfuel)]

theorem readEntries_rowText (hclose : close ∈ [']', '\x7d']) (hopen : ∀ e ∈ entries, Opens (print e))
    (hread : ∀ e ∈ entries, ∀ rest, EndsEntry rest →
      readEntry (lineAt indent (depth + 1) ++ print e ++ rest) = some (e, rest)) (rest : List Char) :
    readEntries readEntry close (rowText indent depth print close entries ++ rest) =
      some (entries, rest) := by
  have hblank := (separate_of_closing hclose).1
  cases entries with
  | nil => simp [readEntries, rowText, skip_cons hblank]
  | cons e es =>
    obtain ⟨c, w, hw, hc, hopens⟩ := hopen e List.mem_cons_self
    -- the first entry keeps the closing character away from the head of the row
    have hhead : (skip (rowText indent depth print close (e :: es) ++ rest)).head? ≠ some close := by
      have hstart : ∃ tail, rowText indent depth print close (e :: es) ++ rest =
          lineAt indent (depth + 1) ++ c :: tail := by
        cases es <;> simp [rowText, hw]
      obtain ⟨tail, htail⟩ := hstart
      rw [htail, skip_lineAt, skip_cons hc, List.head?_cons]
      rintro ⟨⟩
      exact hopens hclose
    rw [readEntries, if_neg hhead]
    have hrow : rowText indent depth print close (e :: es) ++ rest =
        [','].intercalate ((e :: es).map fun e => lineAt indent (depth + 1) ++ print e) ++
          (lineAt indent depth ++ close :: rest) := by
      simp [rowText]
    have hlength : ((e :: es).map fun e => lineAt indent (depth + 1) ++ print e).length ≤
        ([','].intercalate _).length + 1 := length_le_intercalate
    rw [List.length_map] at hlength
    rw [hrow]
    refine readRow_intercalate hclose hread (by simp) ?_ rest
    simp only [List.length_append, List.length_cons] at hlength ⊢
    omega

def fieldText (key : String) (content : List Char) : List Char := stringText key ++ ([':', ' '] ++ content)

theorem opens_fieldText (key : String) (content : List Char) : Opens (fieldText key content) :=
  ⟨'"', _, rfl, by decide, by decide⟩

theorem readField_fieldText {readContent : String → Reader α} {key : String} {text rest : List Char}
    {content : α} (h : readContent key (' ' :: (text ++ rest)) = some (content, rest)) :
    readField readContent (lineAt indent depth ++ fieldText key text ++ rest) =
      some ((key, content), rest) := by
  have hquote : isBlank '"' = false := by decide
  have hcolon : isBlank ':' = false := by decide
  have htext : fieldText key text ++ rest =
      '"' :: (key.toList.flatMap escapeChar ++ '"' :: ':' :: ' ' :: (text ++ rest)) := by
    rw [fieldText, List.append_assoc, stringText_append]
    simp
  rw [readField, List.append_assoc, skip_lineAt, htext, skip_cons hquote]
  simp [readString_escaped, skip_cons hcolon, h]

end Rows

section Values

variable {indent depth limit : Nat} {rest cs : List Char}

theorem itemsText_eq (items : List Value) : itemsText indent depth items =
    [','].intercalate (items.map fun v => lineAt indent depth ++ text indent depth v) := by
  induction items with
  | nil => rfl
  | cons v items ih =>
    rw [itemsText, ih]
    cases items <;> simp

theorem fieldsText_eq (fields : List (String × Value)) : fieldsText indent depth fields =
    [','].intercalate (fields.map fun f => lineAt indent depth ++ fieldText f.1 (text indent depth f.2)) := by
  induction fields with
  | nil => rfl
  | cons f fields ih =>
    rw [fieldsText, ih]
    cases fields <;> simp [fieldText]

theorem text_array (items : List Value) : text indent depth (.array items) =
    '[' :: rowText indent depth (text indent (depth + 1)) ']' items := by
  cases items with
  | nil => rfl
  | cons v items => simp [text, rowText, itemsText_eq]

theorem text_object (fields : List (String × Value)) : text indent depth (.object fields) =
    '\x7b' :: rowText indent depth (fun f => fieldText f.1 (text indent (depth + 1) f.2)) '\x7d' fields := by
  cases fields with
  | nil => rfl
  | cons f fields => simp [text, rowText, fieldsText_eq]

theorem opens_text (v : Value) : Opens (text indent depth v) := by
  cases v with
  | null => exact ⟨_, _, rfl, by decide, by decide⟩
  | bool b => cases b <;> exact ⟨_, _, rfl, by decide, by decide⟩
  | string s => exact ⟨_, _, rfl, by decide, by decide⟩
  | array items => exact ⟨_, _, text_array items, by decide, by decide⟩
  | object fields => exact ⟨_, _, text_object fields, by decide, by decide⟩
  | int n =>
    obtain ⟨c, cs, hcs, hc⟩ := exists_intText n
    exact ⟨c, cs, hcs, by simp (disch := decide) [isBlank, ne_of_intStart hc],
      by simp (disch := decide) [ne_of_intStart hc]⟩

theorem readValue_congr {other : List Char} (h : skip cs = skip other) :
    readValue limit cs = readValue limit other := by
  cases limit with
  | zero => rfl
  | succ limit => rw [readValue, readValue, h]

theorem readValue_lineAt (cs : List Char) : readValue limit (lineAt indent depth ++ cs) = readValue limit cs :=
  readValue_congr (skip_lineAt _ _ _)

theorem readValue_space (cs : List Char) : readValue limit (' ' :: cs) = readValue limit cs :=
  readValue_congr (skip_space cs)

theorem readValue_scalar {c : Char} (hc : c ∉ [' ', '\t', '\n', '\r', '[', '\x7b']) :
    readValue (limit + 1) (c :: cs) = readScalar (c :: cs) := by
  simp only [List.mem_cons, List.not_mem_nil, or_false, not_or] at hc
  obtain ⟨hspace, htab, hline, hreturn, hbracket, hbrace⟩ := hc
  rw [readValue, skip_cons (by simp [isBlank, *])]
  split <;> simp_all

/-- The texts of the parts of a value are shorter than its own, and so the length of the text is deep
enough. -/
theorem readValue_text {v : Value} (hlimit : (text indent depth v).length ≤ limit)
    (hrest : EndsEntry rest) : readValue limit (text indent depth v ++ rest) = some (v, rest) := by
  induction limit generalizing depth v rest with
  | zero =>
    obtain ⟨c, cs, hcs, -⟩ : Opens (text indent depth v) := opens_text v
    rw [hcs] at hlimit
    cases hlimit
  | succ limit ih =>
    cases v with
    | null => rfl
    | bool b => cases b <;> rfl
    | string s =>
      rw [text, stringText_append, readValue_scalar (by decide), readScalar, readString_escaped]
      rfl
    | int n =>
      obtain ⟨c, cs, hcs, hc⟩ := exists_intText n
      have hread := readScalar_intText hrest n
      rw [text]
      rw [hcs, List.cons_append] at hread ⊢
      rw [readValue_scalar (by simp (disch := decide) [ne_of_intStart hc]), hread]
    | array items =>
      rw [text_array] at hlimit ⊢
      have hread : ∀ v ∈ items, ∀ rest, EndsEntry rest →
          readValue limit (lineAt indent (depth + 1) ++ text indent (depth + 1) v ++ rest) =
            some (v, rest) := by
        intro v hv rest hrest
        have hlt : _ < (rowText indent depth (text indent (depth + 1)) ']' items).length :=
          length_lt_rowText hv
        rw [List.append_assoc, readValue_lineAt, ih (by simp at hlimit; omega) hrest]
      have hrow := readEntries_rowText (by decide : ']' ∈ [']', '\x7d']) (fun v _ => opens_text v) hread rest
      have hbracket : isBlank '[' = false := by decide
      simp [readValue, skip_cons hbracket, hrow]
    | object fields =>
      rw [text_object] at hlimit ⊢
      have hread : ∀ f ∈ fields, ∀ rest, EndsEntry rest →
          readField (fun _ => readValue limit)
              (lineAt indent (depth + 1) ++ fieldText f.1 (text indent (depth + 1) f.2) ++ rest) =
            some (f, rest) := by
        intro f hf rest hrest
        have hlt : _ < (rowText indent depth (fun f => fieldText f.1 (text indent (depth + 1) f.2)) '\x7d'
            fields).length := length_lt_rowText hf
        refine readField_fieldText ?_
        rw [readValue_space, ih (by simp [fieldText] at hlimit hlt; omega) hrest]
      have hrow := readEntries_rowText (by decide : '\x7d' ∈ [']', '\x7d'])
        (fun f _ => opens_fieldText f.1 _) hread rest
      have hbrace : isBlank '\x7b' = false := by decide
      simp [readValue, skip_cons hbrace, hrow]

theorem read?_text (v : Value) : read? (text indent depth v) = some v := by
  have hread : readValue _ (text indent depth v ++ []) = some (v, []) :=
    readValue_text (Nat.le_succ _) endsEntry_nil
  rw [List.append_nil] at hread
  rw [read?, hread]
  rfl

end Values

section Records

theorem field?_document (r : Record) :
    r.document.field? "id" = some (.string r.id) ∧
      r.document.field? "meta" = some (.object r.metadata.entries) ∧
      r.document.field? "container" = if r.container = "" then none else some (.string r.container) := by
  by_cases hroot : r.container = "" <;>
    simp [Record.document, Record.isRoot, Value.field?, List.lookup_cons, hroot]

theorem ofDocument?_document (r : Record) : Record.ofDocument? r.document = some r := by
  obtain ⟨hid, hmeta, hcontainer⟩ := field?_document r
  rw [Record.ofDocument?, hid, hmeta, hcontainer]
  obtain ⟨id, ⟨entries⟩, container⟩ := r
  by_cases hroot : container = "" <;> simp [hroot]

theorem read?_serialize {records : List Record} {text : String}
    (h : formatter.serialize records = .ok text) :
    read? text.toList = some (.array (records.map Record.document)) := by
  cases h
  rw [String.toList_ofList, read?_text]

/-- The records are read back from their text, in which a record has a container field only if it is
in a container and nothing in its metadata counts as a field of the record. -/
theorem serialize_decodable (records : List Record) : ∃ text docs,
    formatter.serialize records = .ok text ∧ read? text.toList = some (.array docs) ∧
      docs.map Record.ofDocument? = records.map some ∧
      (docs.map fun v => (v.field? "id", v.field? "meta", v.field? "container")) =
        records.map (fun r => (some (.string r.id), some (.object r.metadata.entries),
          if r.container = "" then none else some (.string r.container))) ∧
      ∀ others, formatter.serialize others = .ok text ↔ others = records := by
  have hrecords (records : List Record) :
      (records.map Record.document).map Record.ofDocument? = records.map some := by
    simp [ofDocument?_document]
  refine ⟨_, records.map Record.document, rfl, read?_serialize rfl, hrecords records, ?_, fun others => ?_⟩
  · simp [field?_document]
  constructor
  · intro hothers
    have hdocs := read?_serialize hothers
    rw [read?_serialize rfl] at hdocs
    have hsame : records.map Record.document = others.map Record.document :=
      Value.array.inj (Option.some.inj hdocs)
    refine List.map_injective_iff.2 (Option.some_injective _) ?_
    rw [← hrecords others, ← hrecords records, hsame]
  · rintro rfl
    rfl

end Records

end WidgetLocator.Json
