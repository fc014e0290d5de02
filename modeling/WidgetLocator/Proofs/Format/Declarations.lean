import WidgetLocator.Format.Declarations
import WidgetLocator.Proofs.Format.Json
import WidgetLocator.Proofs.Record.Identifier
import WidgetLocator.Proofs.Record.Metadata
import WidgetLocator.Record.Synthesis

/-! Declarations are read back. A declaration is framed by its identifier, by braces and by line
breaks, and its container stands without quotes among values that may have a key of the same name. A
reader still tells all of these apart: an identifier has no blank, no text that a value holds ends its
string, and whatever a step writes under the key of a container is a string, which has quotes. -/

namespace WidgetLocator

namespace Declarations

open Json
open WidgetLocator.Path (run? run?_eq_some_iff afterText?)

section Reading

/-- What belongs to a key: a value, or the identifier of the declaration that is referred to. -/
inductive Content where
  | value (v : Value)
  | reference (id : String)

def isReferenceChar (c : Char) : Bool := c.isAlphanum || c == '_'

def containerField : String := "container"

/-- Reads what belongs to the key. Only a container can do without quotes. -/
def readContent (limit : Nat) (key : String) : Reader Content := fun cs =>
  if key = containerField ∧ (skip cs).head? ≠ some '"' then
    (run? isReferenceChar (skip cs)).map fun (id, rest) => (.reference (String.ofList id), rest)
  else (readValue limit cs).map fun (v, rest) => (.value v, rest)

def value? : String × Content → Option (String × Value)
  | (key, .value v) => some (key, v)
  | (_, .reference _) => none

def reference? : String × Content → Option String
  | (_, .value _) => none
  | (_, .reference id) => some id

def declared (id : List Char) (fields : List (String × Content)) : Record :=
  ⟨String.ofList id, ⟨fields.filterMap value?⟩, (fields.findSome? reference?).getD ""⟩

def readDeclaration : Reader Record := fun cs => do
  let rest ← afterText? [' ', '=', ' ', '\x7b'] (cs.dropWhile isReferenceChar)
  let (fields, rest) ← readEntries (readField (readContent rest.length)) '\x7d' rest
  let rest ← afterText? ['\n'] rest
  return (declared (cs.takeWhile isReferenceChar) fields, rest)

def readDeclarations : (fuel : Nat) → List Char → Option (List Record)
  | _, [] => some []
  | 0, _ => none
  | fuel + 1, cs => do
    let (r, rest) ← readDeclaration cs
    return r :: (← readDeclarations fuel rest)

def read? (cs : List Char) : Option (List Record) := readDeclarations cs.length cs

end Reading

section Printing

def Content.text (indent : Nat) : Content → List Char
  | value v => Json.text indent 1 v
  | reference id => id.toList

def entryText (indent : Nat) (f : String × Content) : List Char := fieldText f.1 (f.2.text indent)

def valueFields (entries : List (String × Value)) : List (String × Content) :=
  entries.map fun e => (e.1, .value e.2)

/-- The metadata of a record and then its container, if it has one. -/
def contents (r : Record) : List (String × Content) :=
  valueFields r.metadata.entries ++
    if r.container = "" then [] else [(containerField, .reference r.container)]

variable {indent : Nat} {r : Record}

theorem intercalate_append_singleton {ls : List (List Char)} (hls : ls ≠ []) (sep l : List Char) :
    sep.intercalate (ls ++ [l]) = sep.intercalate ls ++ (sep ++ l) := by
  induction ls with
  | nil => exact absurd rfl hls
  | cons m ls ih =>
    by_cases hlast : ls = []
    · subst hlast
      simp
    · rw [List.cons_append, List.intercalate_cons_of_ne_nil (by simp), ih hlast,
        List.intercalate_cons_of_ne_nil hlast]
      simp

theorem lineAt_zero (indent : Nat) : lineAt indent 0 = ['\n'] := rfl

theorem reopened?_closing (opened : List Char) : reopened? (opened ++ closing) = some opened := by
  rw [reopened?, if_pos (List.isSuffixOf_iff_suffix.2 (List.suffix_append _ _)), List.length_append,
    Nat.add_sub_cancel, List.take_left]

theorem text_metadata (entries : List (String × Value)) : text indent 0 (.object entries) =
    '\x7b' :: rowText indent 0 (entryText indent) '\x7d' (valueFields entries) := by
  rw [text_object, rowText, rowText, valueFields, List.map_map, List.isEmpty_map]
  rfl

/-- The container goes on where the last of the other fields ends. -/
theorem withContainer_text (container : String) (entries : List (String × Value)) :
    withContainer indent container (text indent 0 (.object entries)) =
      '\x7b' :: rowText indent 0 (entryText indent) '\x7d'
        (valueFields entries ++ [(containerField, .reference container)]) := by
  rw [text_metadata]
  generalize valueFields entries = fields
  by_cases hfields : fields = []
  · -- an empty object has no line to reopen, and a new one is begun
    subst hfields
    have hempty : rowText indent 0 (entryText indent) '\x7d' [] = ['\x7d'] := rfl
    have hclosed : reopened? ['\x7b', '\x7d'] = none := rfl
    rw [hempty, withContainer, hclosed]
    simp [rowText, entryText, fieldText, containerKey, containerField, Content.text, closing, lineAt_zero]
  · have hopened (cs : List Char) : '\x7b' :: (cs ++ (['\n'] ++ ['\x7d'])) = '\x7b' :: cs ++ closing := rfl
    have hlines : fields.map (fun f => lineAt indent 1 ++ entryText indent f) ≠ [] := by
      simpa using hfields
    rw [rowText, rowText, List.map_append, List.map_singleton, intercalate_append_singleton hlines,
      if_neg (by simpa using hfields), if_neg (by simp), lineAt_zero, hopened, withContainer,
      reopened?_closing]
    simp [entryText, fieldText, containerKey, containerField, Content.text, closing]

theorem declaration_eq (indent : Nat) (r : Record) : declaration indent r =
    r.id.toList ++ ([' ', '=', ' ', '\x7b'] ++
      (rowText indent 0 (entryText indent) '\x7d' (contents r) ++ ['\n'])) := by
  by_cases hroot : r.container = ""
  · simp [declaration, contents, Record.isRoot_iff, hroot, text_metadata]
  · simp [declaration, contents, Record.isRoot_iff, hroot, withContainer_text]

theorem declaration_ne_nil (indent : Nat) (r : Record) : declaration indent r ≠ [] := by
  rw [declaration_eq]
  simp

end Printing

/-- What declarations rely on: identifiers have no other characters, and a value under the key of a
container has quotes. -/
structure Declarable (r : Record) : Prop where
  id : ∀ c ∈ r.id.toList, isReferenceChar c
  container : ∀ c ∈ r.container.toList, isReferenceChar c
  quoted : ∀ v, (containerField, v) ∈ r.metadata.entries → ∃ s, v = .string s

section RoundTrip

variable {indent limit : Nat} {r : Record} {rest : List Char} {records : List Record}

theorem readContent_value {key : String} {v : Value} (hquoted : key = containerField → ∃ s, v = .string s)
    (hlimit : (text indent 1 v).length ≤ limit) (hrest : EndsEntry rest) :
    readContent limit key (' ' :: (text indent 1 v ++ rest)) = some (.value v, rest) := by
  -- under the key of a container a quote comes first, so this is no reference
  have hkey : ¬ (key = containerField ∧ (skip (' ' :: (text indent 1 v ++ rest))).head? ≠ some '"') := by
    rintro ⟨hcontainer, hhead⟩
    obtain ⟨s, rfl⟩ := hquoted hcontainer
    exact hhead rfl
  rw [readContent, if_neg hkey, readValue_space, readValue_text hlimit hrest, Option.map_some]

theorem readContent_reference {id : String} (hne : id ≠ "") (hid : ∀ c ∈ id.toList, isReferenceChar c)
    (hrest : EndsEntry rest) :
    readContent limit containerField (' ' :: (id.toList ++ rest)) = some (.reference id, rest) := by
  have hcs : id.toList ≠ [] := by simpa using hne
  have hrun : run? isReferenceChar (id.toList ++ rest) = some (id.toList, rest) :=
    run?_eq_some_iff.2 ⟨rfl, hcs, hid, hrest.eq_false (by decide) (by decide)⟩
  obtain ⟨c, cs, hcons⟩ := List.exists_cons_of_ne_nil hcs
  have hc : isReferenceChar c := hid c (hcons ▸ List.mem_cons_self)
  have hother (d : Char) (hd : isReferenceChar d = false) : c ≠ d := by
    rintro rfl
    simp [hc] at hd
  have hblank : Json.isBlank c = false := by simp (disch := decide) [Json.isBlank, hother]
  have hskip : skip (' ' :: (id.toList ++ rest)) = id.toList ++ rest := by
    rw [skip_space, hcons, List.cons_append, skip_cons hblank]
  have hquote : (id.toList ++ rest).head? ≠ some '"' := by
    rw [hcons, List.cons_append, List.head?_cons]
    rintro ⟨⟩
    exact hother '"' (by decide) rfl
  rw [readContent, hskip, if_pos ⟨rfl, hquote⟩, hrun]
  simp

theorem declared_contents (r : Record) : declared r.id.toList (contents r) = r := by
  obtain ⟨id, ⟨entries⟩, container⟩ := r
  have hvalues : (valueFields entries).filterMap value? = entries := by
    rw [valueFields, List.filterMap_map]
    exact List.filterMap_some
  have hreferences : (valueFields entries).findSome? reference? = none := by
    rw [valueFields, List.findSome?_map]
    exact List.findSome?_eq_none_iff.2 fun _ _ => rfl
  by_cases hroot : container = ""
  · simp [declared, contents, hroot, hvalues, hreferences]
  · simp [declared, contents, hroot, hvalues, hreferences, value?, reference?]

theorem Declarable.readContents (h : Declarable r)
    (hlimit : (rowText indent 0 (entryText indent) '\x7d' (contents r)).length ≤ limit)
    (rest : List Char) :
    readEntries (readField (readContent limit)) '\x7d'
        (rowText indent 0 (entryText indent) '\x7d' (contents r) ++ rest) =
      some (contents r, rest) := by
  refine readEntries_rowText (by decide) (fun f _ => opens_fieldText _ _) ?_ rest
  intro f hf rest hrest
  -- the length of the row bounds the depth of each of its values
  have hlt : (entryText indent f).length < (rowText indent 0 (entryText indent) '\x7d' (contents r)).length :=
    length_lt_rowText hf
  obtain ⟨key, content⟩ := f
  refine readField_fieldText ?_
  obtain hentry | hcontainer := List.mem_append.1 hf
  · obtain ⟨⟨key, v⟩, hmem, hsame⟩ := List.mem_map.1 hentry
    cases hsame
    have hle : (text indent 1 v).length ≤ limit := by
      simp only [entryText, fieldText, Content.text, List.length_append] at hlt
      omega
    exact readContent_value (fun hkey => h.quoted v (hkey ▸ hmem)) hle hrest
  · by_cases hroot : r.container = ""
    · simp [hroot] at hcontainer
    · obtain ⟨rfl, rfl⟩ : key = containerField ∧ content = .reference r.container := by
        simpa [hroot] using hcontainer
      exact readContent_reference hroot h.container hrest

theorem Declarable.readDeclaration (h : Declarable r) (rest : List Char) :
    readDeclaration (declaration indent r ++ rest) = some (r, rest) := by
  have hspace : isReferenceChar ' ' = false := by decide
  rw [Declarations.readDeclaration, declaration_eq]
  simp only [List.append_assoc]
  rw [List.takeWhile_append_of_pos h.id, List.dropWhile_append_of_pos h.id]
  simp [hspace, afterText?, h.readContents, declared_contents]

theorem readDeclarations_flatMap (h : ∀ r ∈ records, Declarable r) {fuel : Nat}
    (hfuel : (records.flatMap (declaration indent)).length ≤ fuel) :
    readDeclarations fuel (records.flatMap (declaration indent)) = some records := by
  induction records generalizing fuel with
  | nil => cases fuel <;> rfl
  | cons r records ih =>
    obtain ⟨hr, hrecords⟩ := List.forall_mem_cons.1 h
    obtain ⟨c, cs, hcs⟩ := List.exists_cons_of_ne_nil (declaration_ne_nil indent r)
    have hread : readDeclaration (declaration indent r ++ records.flatMap (declaration indent)) =
        some (r, records.flatMap (declaration indent)) := hr.readDeclaration _
    rw [List.flatMap_cons] at hfuel ⊢
    rw [hcs, List.cons_append] at hfuel hread ⊢
    rw [List.length_cons, List.length_append] at hfuel
    obtain ⟨fuel, rfl⟩ : ∃ n, fuel = n + 1 := ⟨fuel - 1, by omega⟩
    have hrest : readDeclarations fuel (records.flatMap (declaration indent)) = some records :=
      ih hrecords (by omega)
    rw [readDeclarations, hread]
    · simp [hrest]
    · exact List.cons_ne_nil _ _

theorem read?_flatMap (h : ∀ r ∈ records, Declarable r) :
    read? (records.flatMap (declaration indent)) = some records :=
  readDeclarations_flatMap h le_rfl

end RoundTrip

end Declarations

section Steps

/-- The only values of a step that are no strings have keys of their own. -/
theorem quoted_of_mem_writes {classify : Classifier} {s : Step} {v : Value}
    (h : (Declarations.containerField, v) ∈ Record.writes classify s) : ∃ t, v = .string t := by
  simp only [Record.writes, List.mem_append, List.mem_cons, List.mem_flatMap, List.not_mem_nil, or_false,
    Prod.mk.injEq] at h
  obtain (⟨-, rfl⟩ | ⟨c, -, hc⟩) | ⟨hkey, -⟩ := h
  · exact ⟨_, rfl⟩
  · cases c with
    | test t =>
      obtain ⟨-, rfl⟩ := Prod.mk.inj (List.mem_singleton.1 hc)
      exact ⟨_, rfl⟩
    | position n =>
      rw [Record.conditionWrites] at hc
      split at hc
      · exact absurd (Prod.mk.inj (List.mem_singleton.1 hc)).1 (by decide)
      · cases hc
  · exact absurd hkey (by decide)

theorem declarable_of_mem_chain {classify : Classifier} {parent : String} {steps : List Step}
    (hparent : ∀ c ∈ parent.toList, Declarations.isReferenceChar c) :
    ∀ r ∈ Record.chain classify parent steps, Declarations.Declarable r := by
  induction steps generalizing parent with
  | nil => simp [Record.chain]
  | cons s steps ih =>
    rw [Record.chain]
    have hid : ∀ c ∈ (Record.ofStep classify parent s).id.toList, Declarations.isReferenceChar c := by
      intro c hc
      simpa [Declarations.isReferenceChar] using Identifier.mem_canonical hc
    have hfirst : Declarations.Declarable (Record.ofStep classify parent s) :=
      ⟨hid, hparent, fun v hv => quoted_of_mem_writes (Metadata.mem_ofWrites hv)⟩
    exact List.forall_mem_cons.2 ⟨hfirst, ih hid⟩

end Steps

namespace Declarations

/-- The records of a path can be read from their declarations at every indent, and so two paths have
the same declarations only if they have the same records. -/
theorem serialize_ofSteps_eq_iff (indent : Nat) (classify classify' : Classifier) (xs ys : List Step) :
    (∃ text, (formatter indent).serialize (Record.ofSteps classify xs) = .ok text ∧
        read? text.toList = some (Record.ofSteps classify xs)) ∧
      ((formatter indent).serialize (Record.ofSteps classify xs) =
          (formatter indent).serialize (Record.ofSteps classify' ys) ↔
        Record.ofSteps classify xs = Record.ofSteps classify' ys) := by
  have hread (classify : Classifier) (steps : List Step) :
      read? ((Record.ofSteps classify steps).flatMap (declaration indent)) =
        some (Record.ofSteps classify steps) :=
    read?_flatMap (declarable_of_mem_chain (by simp))
  refine ⟨⟨_, rfl, ?_⟩, fun h => ?_, fun h => by rw [h]⟩
  · rw [String.toList_ofList, hread]
  · have htext : (Record.ofSteps classify xs).flatMap (declaration indent) =
        (Record.ofSteps classify' ys).flatMap (declaration indent) :=
      String.ofList_injective (Except.ok.inj h)
    have hsame := hread classify xs
    rw [htext, hread classify' ys] at hsame
    exact (Option.some.inj hsame).symm

end Declarations
end WidgetLocator
