import Mathlib.Order.Bounds.Basic
import Mathlib.Tactic.SplitIfs
import WidgetLocator.Proofs.Text.Utf8
import WidgetLocator.Report

/-! The place in a source that an offset stands for. It is the last boundary between two characters
that the offset does not go back behind, and it cuts the source into four parts: the lines above, the
line up to the place, the line from the place on, and what follows the line. Where a part begins is
counted in bytes, and the column of the place in characters. -/

namespace WidgetLocator.Report

open Text

/-- No character of the source has bytes on both sides of the offset. -/
def IsBoundary (source : String) (b : Nat) : Prop := (⟨b⟩ : String.Pos.Raw).IsValid source

/-- The text stands in the source from the byte `i` up to the byte `j`, whole characters all of it. -/
def Slice (source : String) (i j : Nat) (text : String) : Prop :=
  ∃ before after, source = before ++ text ++ after ∧ i = before.utf8ByteSize ∧
    j = (before ++ text).utf8ByteSize

structure Place where
  above : String
  lead : String
  tail : String
  below : String
deriving DecidableEq

namespace Place

variable (p : Place)

def line : String := p.lead ++ p.tail

def start : Nat := p.above.utf8ByteSize

def offset : Nat := (p.above ++ p.lead).utf8ByteSize

def stop : Nat := (p.above ++ p.line).utf8ByteSize

def number : Nat := (p.above ++ p.lead).toList.count '\n' + 1

def column : Nat := p.lead.length

/-- What stands before the line when it is shown: its number in at least three characters. -/
def gutter : String :=
  ">> " ++ String.ofList (List.replicate (3 - (toString p.number).length) ' ') ++ toString p.number ++ " | "

def firstLine : String := p.gutter ++ p.line

def secondLine : String := "       | " ++ String.ofList (List.replicate p.column ' ') ++ "^"

/-- The place is that of the offset: the parts make up the source, they meet at the greatest boundary
up to the offset, and the line goes from the last line feed before it to the first one after it. -/
structure Marks (source : String) (o : Nat) : Prop where
  source_eq : source = p.above ++ p.lead ++ p.tail ++ p.below
  greatest : IsGreatest {b | IsBoundary source b ∧ b ≤ min o source.utf8ByteSize} p.offset
  opens : p.above = "" ∨ ∃ s, p.above = s ++ "\n"
  closes : p.below = "" ∨ ∃ s, p.below = "\n" ++ s
  no_feed : '\n' ∉ p.line.toList

/-- The parts of the source between the bytes where it is cut. -/
structure Cuts (source : String) : Prop where
  before : Slice source 0 p.offset (p.above ++ p.lead)
  after : Slice source p.offset source.utf8ByteSize (p.tail ++ p.below)
  above : Slice source 0 p.start p.above
  lead : Slice source p.start p.offset p.lead
  line : Slice source p.start p.stop p.line

end Place

section Boundaries

variable {source : String} {b o : Nat} {before after : List Char}

theorem isBoundary_iff : IsBoundary source b ↔ ∃ x y, source = x ++ y ∧ b = x.utf8ByteSize := by
  rw [IsBoundary, String.Pos.Raw.isValid_iff_exists_append]
  simp [String.Pos.Raw.ext_iff]

theorem IsBoundary.le (h : IsBoundary source b) : b ≤ source.utf8ByteSize := by
  obtain ⟨x, y, rfl, rfl⟩ := isBoundary_iff.1 h
  rw [String.utf8ByteSize_append]
  exact Nat.le_add_right _ _

theorem slice_of_toList {text : List Char} (h : source.toList = before ++ (text ++ after)) :
    Slice source (String.utf8Len before) (String.utf8Len before + String.utf8Len text)
      (String.ofList text) := by
  refine ⟨String.ofList before, String.ofList after, ?_, (String.utf8ByteSize_ofList before).symm, ?_⟩
  · rw [← String.toList_inj, h]
    simp
  · rw [String.utf8ByteSize_append, String.utf8ByteSize_ofList, String.utf8ByteSize_ofList]

theorem Slice.isBoundary {i j : Nat} {text : String} (h : Slice source i j text) :
    IsBoundary source i := by
  obtain ⟨before, after, hsource, hi, -⟩ := h
  exact isBoundary_iff.2 ⟨before, text ++ after, by rw [hsource, String.append_assoc], hi⟩

theorem Slice.isBoundary_stop {i j : Nat} {text : String} (h : Slice source i j text) :
    IsBoundary source j := by
  obtain ⟨before, after, hsource, -, hj⟩ := h
  exact isBoundary_iff.2 ⟨before ++ text, after, hsource, hj⟩

theorem slice?_eq_some_iff {i j : Nat} {text : String} :
    slice? source i j = some text ↔ Slice source i j text := by
  rw [slice?]
  split_ifs with h
  · rw [Option.map_eq_some_iff, String.slice?]
    trans ∃ hle, (source.slice (source.pos ⟨i⟩ h.1) (source.pos ⟨j⟩ h.2) hle).copy = text
    · split_ifs with hle <;> simp [hle]
    · rw [String.copy_slice_eq_iff_splits]
      constructor
      · rintro ⟨x, y, hi, hj⟩
        exact ⟨x, y, hj.eq_append, congrArg String.Pos.Raw.byteIdx hi.offset_eq_rawEndPos,
          congrArg String.Pos.Raw.byteIdx hj.offset_eq_rawEndPos⟩
      · rintro ⟨x, y, hsource, rfl, rfl⟩
        exact ⟨x, y, ⟨by rw [hsource, String.append_assoc], rfl⟩, hsource, rfl⟩
  · exact iff_of_false nofun fun hslice => h ⟨hslice.isBoundary, hslice.isBoundary_stop⟩

theorem clampBelow_spec (source : String) (n : Nat) :
    IsGreatest {b | IsBoundary source b ∧ b ≤ n} (clampBelow source n) := by
  induction n with
  | zero => exact ⟨⟨isBoundary_iff.2 ⟨"", source, by simp, rfl⟩, Nat.le_refl 0⟩, fun b hb => hb.2⟩
  | succ n ih =>
    rw [clampBelow]
    split_ifs with hvalid
    · exact ⟨⟨hvalid, Nat.le_refl _⟩, fun b hb => hb.2⟩
    · refine ⟨⟨ih.1.1, Nat.le_succ_of_le ih.1.2⟩, fun b hb => ih.2 ⟨hb.1, ?_⟩⟩
      rcases hb.2.lt_or_eq with hlt | rfl
      · exact Nat.le_of_lt_succ hlt
      · exact absurd hb.1 hvalid

end Boundaries

section Feeds

variable {lead tail v : List Char}

theorem lastFeed?_of_notMem (h : '\n' ∉ lead) (i : Nat) : lastFeed? i lead = none := by
  induction lead generalizing i with
  | nil => rfl
  | cons c cs ih =>
    rw [List.mem_cons, not_or] at h
    rw [lastFeed?, ih h.2, if_neg (Ne.symm h.1), Option.none_or]

theorem lastFeed?_append_cons (h : '\n' ∉ lead) (i : Nat) :
    lastFeed? i (v ++ '\n' :: lead) = some (i + String.utf8Len v) := by
  induction v generalizing i with
  | nil => rw [List.nil_append, lastFeed?, lastFeed?_of_notMem h, if_pos rfl, Option.none_or]; rfl
  | cons c v ih =>
    rw [List.cons_append, lastFeed?, ih, Option.some_or, String.utf8Len_cons]
    congr 1
    omega

theorem firstFeed?_of_notMem (h : '\n' ∉ tail) (i : Nat) : firstFeed? i tail = none := by
  induction tail generalizing i with
  | nil => rfl
  | cons c cs ih =>
    rw [List.mem_cons, not_or] at h
    rw [firstFeed?, ih h.2, if_neg (Ne.symm h.1)]

theorem firstFeed?_append_cons (h : '\n' ∉ tail) (i : Nat) :
    firstFeed? i (tail ++ '\n' :: v) = some (i + String.utf8Len tail) := by
  induction tail generalizing i with
  | nil => rfl
  | cons c cs ih =>
    rw [List.mem_cons, not_or] at h
    rw [List.cons_append, firstFeed?, ih h.2, if_neg (Ne.symm h.1), String.utf8Len_cons]
    congr 1
    omega

end Feeds

section Lines

variable {source : String} {o : Nat} {p : Place}

theorem exists_lead (before : String) : ∃ above lead, before = above ++ lead ∧
    (above = "" ∨ ∃ s, above = s ++ "\n") ∧ '\n' ∉ lead.toList := by
  by_cases hfeed : '\n' ∈ before.toList.reverse
  · obtain ⟨xs, ys, hbefore, hxs⟩ := List.eq_append_cons_of_mem hfeed
    refine ⟨String.ofList ys.reverse ++ "\n", String.ofList xs.reverse, ?_, .inr ⟨_, rfl⟩, by simpa using hxs⟩
    rw [← String.toList_inj, ← List.reverse_inj, hbefore]
    simp
  · exact ⟨"", before, by simp, .inl rfl, by simpa using hfeed⟩

theorem exists_tail (after : String) : ∃ tail below, after = tail ++ below ∧
    (below = "" ∨ ∃ s, below = "\n" ++ s) ∧ '\n' ∉ tail.toList := by
  by_cases hfeed : '\n' ∈ after.toList
  · obtain ⟨xs, ys, hafter, hxs⟩ := List.eq_append_cons_of_mem hfeed
    refine ⟨String.ofList xs, "\n" ++ String.ofList ys, ?_, .inr ⟨_, rfl⟩, by simpa using hxs⟩
    rw [← String.toList_inj, hafter]
    simp
  · exact ⟨after, "", by simp, .inl rfl, hfeed⟩

theorem exists_place (source : String) (o : Nat) : ∃ p : Place, p.Marks source o := by
  have hgreatest := clampBelow_spec source (min o source.utf8ByteSize)
  obtain ⟨before, after, hsource, hb⟩ := isBoundary_iff.1 hgreatest.1.1
  obtain ⟨above, lead, rfl, hopens, hlead⟩ := exists_lead before
  obtain ⟨tail, below, rfl, hcloses, htail⟩ := exists_tail after
  rw [hb] at hgreatest
  refine ⟨⟨above, lead, tail, below⟩, ?_, hgreatest, hopens, hcloses, ?_⟩
  · rw [hsource, ← String.append_assoc]
  · simp [Place.line, hlead, htail]

namespace Place

theorem Marks.clamp_eq (h : p.Marks source o) : clamp source o = p.offset :=
  (clampBelow_spec source _).unique h.greatest

theorem Marks.lastFeed?_eq (h : p.Marks source o) :
    (lastFeed? 0 (p.above ++ p.lead).toList).elim 0 (· + 1) = p.start := by
  have hlead : '\n' ∉ p.lead.toList := fun hfeed => h.no_feed (by simp [line, hfeed])
  rcases h.opens with habove | ⟨s, habove⟩
  · rw [start, habove, String.empty_append, lastFeed?_of_notMem hlead]
    rfl
  · have htext : (p.above ++ p.lead).toList = s.toList ++ '\n' :: p.lead.toList := by simp [habove]
    rw [start, htext, lastFeed?_append_cons hlead, Option.elim_some, habove, String.utf8ByteSize_append,
      String.utf8Len_toList, Nat.zero_add]
    rfl

theorem Marks.firstFeed?_eq (h : p.Marks source o) :
    (firstFeed? 0 (p.tail ++ p.below).toList).elim source.utf8ByteSize (p.offset + ·) = p.stop := by
  have htail : '\n' ∉ p.tail.toList := fun hfeed => h.no_feed (by simp [line, hfeed])
  rcases h.closes with hbelow | ⟨s, hbelow⟩
  · rw [hbelow, String.append_empty, firstFeed?_of_notMem htail, Option.elim_none, h.source_eq, hbelow]
    simp [stop, line, String.append_assoc]
  · have htext : (p.tail ++ p.below).toList = p.tail.toList ++ '\n' :: s.toList := by simp [hbelow]
    rw [htext, firstFeed?_append_cons htail, Option.elim_some]
    simp [stop, offset, line, Nat.add_assoc]

theorem Marks.cuts (h : p.Marks source o) : p.Cuts source := by
  have hsource := h.source_eq
  refine ⟨⟨"", p.tail ++ p.below, ?_, rfl, ?_⟩, ⟨p.above ++ p.lead, "", ?_, rfl, ?_⟩,
    ⟨"", p.lead ++ p.tail ++ p.below, ?_, rfl, ?_⟩, ⟨p.above, p.tail ++ p.below, ?_, rfl, rfl⟩,
    ⟨p.above, p.below, ?_, rfl, rfl⟩⟩
  all_goals simp [hsource, offset, start, line, String.append_assoc]

/-- No slice cuts a character, so there is a context. -/
theorem Marks.sourceContext?_eq (h : p.Marks source o) :
    sourceContext? source o = some (p.firstLine ++ "\n" ++ p.secondLine ++ "\n") := by
  have hcuts := h.cuts
  have hfeeds : p.lead.toList.count '\n' = 0 :=
    List.count_eq_zero.2 fun hfeed => h.no_feed (by simp [line, hfeed])
  rw [sourceContext?, h.clamp_eq, slice?_eq_some_iff.2 hcuts.before, slice?_eq_some_iff.2 hcuts.after]
  simp only [bind, Option.bind, h.lastFeed?_eq, h.firstFeed?_eq, slice?_eq_some_iff.2 hcuts.above,
    slice?_eq_some_iff.2 hcuts.lead, slice?_eq_some_iff.2 hcuts.line]
  rw [firstLine, secondLine, gutter, number, lineNumber, String.toList_append, List.count_append, hfeeds]
  have hmargin : "\n       | " = "\n" ++ "       | " := by decide
  have hcaret : "^\n" = "^" ++ "\n" := by decide
  simp only [hmargin, hcaret, toString, column, String.append_assoc, Nat.add_zero, pure]

theorem Marks.context_eq (h : p.Marks source o) :
    sourceContext source o = p.firstLine ++ "\n" ++ p.secondLine ++ "\n" := by
  rw [sourceContext, h.sourceContext?_eq, Option.getD_some]

theorem Marks.before_append_after (h : p.Marks source o) :
    (p.above ++ p.lead).toList ++ (p.tail ++ p.below).toList = source.toList := by
  rw [← String.toList_append, ← String.append_assoc, h.source_eq]

/-- An offset has one place. -/
theorem Marks.unique {q : Place} (hp : p.Marks source o) (hq : q.Marks source o) : p = q := by
  have hoffset : p.offset = q.offset := hp.greatest.unique hq.greatest
  -- two heads of one text with as many bytes are the same
  have hbefore : (p.above ++ p.lead).toList = (q.above ++ q.lead).toList := by
    refine eq_of_utf8Len_eq ⟨_, hp.before_append_after⟩ ⟨_, hq.before_append_after⟩ ?_
    rw [String.utf8Len_toList, String.utf8Len_toList]
    exact hoffset
  have hafter : (p.tail ++ p.below).toList = (q.tail ++ q.below).toList := by
    have hsource := hp.before_append_after.trans hq.before_append_after.symm
    rwa [hbefore, List.append_cancel_left_eq] at hsource
  have hstart : p.start = q.start := by rw [← hp.lastFeed?_eq, hbefore, hq.lastFeed?_eq]
  have hstop : p.stop = q.stop := by rw [← hp.firstFeed?_eq, hafter, hoffset, hq.firstFeed?_eq]
  rw [String.toList_append, String.toList_append] at hbefore hafter
  have habove : p.above.toList = q.above.toList := by
    refine eq_of_utf8Len_eq (List.prefix_append _ _) ⟨_, hbefore.symm⟩ ?_
    rw [String.utf8Len_toList, String.utf8Len_toList]
    exact hstart
  have htail : p.tail.toList = q.tail.toList := by
    refine eq_of_utf8Len_eq (List.prefix_append _ _) ⟨_, hafter.symm⟩ ?_
    simp only [stop, offset, line, String.utf8ByteSize_append] at hoffset hstop
    rw [String.utf8Len_toList, String.utf8Len_toList]
    omega
  rw [habove, List.append_cancel_left_eq] at hbefore
  rw [htail, List.append_cancel_left_eq] at hafter
  obtain ⟨above, lead, tail, below⟩ := p
  simp only [String.toList_inj] at habove hbefore htail hafter
  rw [habove, hbefore, htail, hafter]

end Place

theorem Place.marks_self (p : Place) (hopens : p.above = "" ∨ ∃ s, p.above = s ++ "\n")
    (hcloses : p.below = "" ∨ ∃ s, p.below = "\n" ++ s) (hfeed : '\n' ∉ p.line.toList) :
    p.Marks (p.above ++ p.lead ++ p.tail ++ p.below) p.offset := by
  refine ⟨rfl, ⟨⟨?_, le_min (Nat.le_refl _) ?_⟩, fun b hb => hb.2.trans (Nat.min_le_left _ _)⟩, hopens,
    hcloses, hfeed⟩
  · exact isBoundary_iff.2 ⟨p.above ++ p.lead, p.tail ++ p.below, by rw [← String.append_assoc], rfl⟩
  · rw [Place.offset, String.append_assoc, @String.utf8ByteSize_append _ (p.tail ++ p.below)]
    exact Nat.le_add_right _ _

/-- What stands in the line at the column of the place stands in the source at its offset. -/
theorem Place.Marks.exists_char (h : p.Marks source o) (hcolumn : p.column < p.line.length) :
    ∃ c, p.line.toList[p.column]? = some c ∧
      Slice source p.offset (p.offset + c.utf8Size) (String.singleton c) := by
  obtain ⟨above, lead, tail, below⟩ := p
  have htail : 0 < tail.toList.length := by
    rw [String.length_toList]
    simpa [Place.column, Place.line] using hcolumn
  obtain ⟨c, rest, htail⟩ := List.exists_cons_of_length_pos htail
  obtain rfl : tail = String.singleton c ++ String.ofList rest := by
    rw [← String.toList_inj, htail]
    simp
  refine ⟨c, ?_, above ++ lead, String.ofList rest ++ below, ?_, rfl, ?_⟩
  · rw [Place.line, String.toList_append, Place.column, ← String.length_toList,
      List.getElem?_append_right (Nat.le_refl _), Nat.sub_self, htail, List.getElem?_cons_zero]
  · rw [h.source_eq]
    simp only [String.append_assoc]
  · simp [Place.offset]

end Lines

end WidgetLocator.Report
