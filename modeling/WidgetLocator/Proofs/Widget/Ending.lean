import Mathlib.Data.List.Forall2
import WidgetLocator.Proofs.Widget.Selection

/-! Tags that end in a pattern. The archetype of such a tag is settled by its end: whatever stands before
it can make another rule decide, but never one with another archetype. No pattern ends in a later one, so
the first pattern that a tag ends in does not change when the tag is put after another text. The case of
ASCII letters is lost before any rule is asked. -/

namespace WidgetLocator

/-- The same character, or a capital ASCII letter and its small one. -/
def SameLetter (c d : Char) : Prop :=
  c = d ∨ (c.isUpper ∧ d.toNat = c.toNat + 32) ∨ (d.isUpper ∧ c.toNat = d.toNat + 32)

section LowerCase

variable {c d : Char} {a b : String}

theorem isUpper_iff : c.isUpper ↔ 65 ≤ c.toNat ∧ c.toNat ≤ 90 :=
  decide_eq_true_iff.trans (and_congr UInt32.le_iff_toNat_le UInt32.le_iff_toNat_le)

theorem toNat_toLower (c : Char) : c.toLower.toNat = if c.isUpper then c.toNat + 32 else c.toNat := by
  by_cases hupper : c.isUpper
  · have hval : c.toLower.val = c.val + ('a'.val - 'A'.val) :=
      congrArg Char.val (dif_pos (of_decide_eq_true hupper))
    have hshift : ('a'.val - 'A'.val).toNat = 32 := rfl
    have hle := (isUpper_iff.1 hupper).2
    rw [if_pos hupper, ← Char.toNat_val, ← Char.toNat_val, hval, UInt32.toNat_add, hshift]
    rw [← Char.toNat_val] at hle
    omega
  · have hself : c.toLower = c := dif_neg fun h => hupper (decide_eq_true h)
    rw [if_neg hupper, hself]

theorem toLower_eq_iff : c.toLower = d.toLower ↔ SameLetter c d := by
  rw [SameLetter, ← Char.toNat_inj, ← Char.toNat_inj, toNat_toLower, toNat_toLower]
  simp only [isUpper_iff]
  split <;> split <;> omega

theorem lowerAscii_append (p t : String) : lowerAscii (p ++ t) = lowerAscii p ++ lowerAscii t := by
  simp [lowerAscii]

theorem lowerAscii_eq_iff : lowerAscii a = lowerAscii b ↔ List.Forall₂ SameLetter a.toList b.toList := by
  rw [lowerAscii, lowerAscii, String.ofList_inj, ← List.forall₂_eq_eq_eq, List.forall₂_map_left_iff,
    List.forall₂_map_right_iff]
  simp only [toLower_eq_iff]

end LowerCase

namespace Rule

def ofTier (t : Tier) : List Rule := table.filter (·.tier = t)

theorem tier_of_mem {r : Rule} {t : Tier} (hr : r ∈ ofTier t) : r.tier = t := by
  simpa using (List.mem_filter.1 hr).2

theorem table_eq : table = ofTier .exact ++ (ofTier .suffix ++ ofTier .substring) := rfl

section Suffixes

variable {rules : List Rule} {r q : Rule} {pre tag : String}

theorem accepts_exact_iff (hr : r.tier = .exact) : r.accepts tag ↔ tag = r.pattern := by
  rw [accepts_iff, Matches, hr]

theorem accepts_suffix_iff (hr : r.tier = .suffix) : r.accepts tag ↔ r.pattern.toList <:+ tag.toList :=
  accepts_iff.trans (matches_suffix_iff hr)

theorem patterns_suffix : (ofTier .suffix).map pattern =
    ["button", "checkbox", "radiobutton", "combobox", "slider", "label", "view", "field"] := rfl

/-- No pattern ends in the pattern of a later rule. -/
theorem suffixes_pairwise : (ofTier .suffix).Pairwise fun r q => ¬ q.pattern.toList <:+ r.pattern.toList := by
  decide +kernel

/-- A text that is put before a tag which ends in a pattern does not change the first pattern in which
the tag ends. -/
theorem find?_suffix_append (hsuffix : ∀ r ∈ rules, r.tier = .suffix)
    (hpairwise : rules.Pairwise fun r q => ¬ q.pattern.toList <:+ r.pattern.toList)
    (hq : q ∈ rules) (haccepts : q.accepts tag) :
    rules.find? (·.accepts (pre ++ tag)) = rules.find? (·.accepts tag) := by
  induction rules with
  | nil => cases hq
  | cons r rules ih =>
    obtain ⟨hr, hrules⟩ := List.forall_mem_cons.1 hsuffix
    obtain ⟨hfirst, hrest⟩ := List.pairwise_cons.1 hpairwise
    by_cases htag : r.accepts tag
    · have hlong : r.accepts (pre ++ tag) := by
        rw [accepts_suffix_iff hr] at htag ⊢
        rw [String.toList_append]
        exact htag.trans (List.suffix_append _ _)
      simp [htag, hlong]
    · have hmem : q ∈ rules := (List.mem_cons.1 hq).resolve_left (by rintro rfl; exact htag haccepts)
      have hlong : ¬ r.accepts (pre ++ tag) := by
        -- the tag would end the pattern, and so would the later pattern in which the tag ends
        rw [accepts_suffix_iff hr] at htag ⊢
        rw [accepts_suffix_iff (hrules q hmem)] at haccepts
        rw [String.toList_append]
        intro hlong
        obtain hend | hend := List.suffix_or_suffix_of_suffix hlong (List.suffix_append _ _)
        · exact htag hend
        · exact hfirst q hmem (haccepts.trans hend)
      simp [htag, hlong, ih hrules hrest hmem]

end Suffixes

end Rule

namespace Archetype

variable {r : Rule} {tag : String}

/-- A rule for one tag alone gives it the archetype that its end has. -/
theorem ofTag_of_suffix (h : (Rule.ofTier .suffix).find? (·.accepts (lowerAscii tag)) = some r) :
    ofTag tag = r.archetype := by
  have hagree : ∀ e ∈ Rule.ofTier .exact, ∀ r ∈ (Rule.ofTier .suffix).find? (·.accepts e.pattern),
      e.archetype = r.archetype := by decide +kernel
  rw [ofTag, ruleFor?, Rule.table_eq, List.find?_append, List.find?_append, h]
  cases he : (Rule.ofTier .exact).find? (·.accepts (lowerAscii tag)) with
  | none => rfl
  | some e =>
    have hmem : e ∈ Rule.ofTier .exact := List.mem_of_find?_eq_some he
    have haccepts := List.find?_some he
    have htag : lowerAscii tag = e.pattern := (Rule.accepts_exact_iff (Rule.tier_of_mem hmem)).1 haccepts
    exact hagree e hmem r (htag ▸ h)

theorem ofTag_append {p t : String} {q : Rule} (hq : q ∈ Rule.ofTier .suffix)
    (haccepts : q.accepts (lowerAscii t)) : ofTag (p ++ t) = ofTag t := by
  obtain ⟨r, hr⟩ : ∃ r, (Rule.ofTier .suffix).find? (·.accepts (lowerAscii t)) = some r :=
    Option.isSome_iff_exists.1 (List.find?_isSome.2 ⟨q, hq, haccepts⟩)
  have hlong : (Rule.ofTier .suffix).find? (·.accepts (lowerAscii (p ++ t))) = some r := by
    rw [lowerAscii_append,
      Rule.find?_suffix_append (fun _ => Rule.tier_of_mem) Rule.suffixes_pairwise hq haccepts, hr]
  rw [ofTag_of_suffix hlong, ofTag_of_suffix hr]

/-- Whatever is put before a tag that ends in one of the patterns leaves the archetype as it is, and tags
that differ in the case of ASCII letters only have the same rule. -/
theorem settled_by_end :
    (∀ p t : String, ∀ pattern ∈ ["button", "checkbox", "radiobutton", "combobox", "slider", "label", "view",
        "field"], pattern.toList <:+ (lowerAscii t).toList → ofTag (p ++ t) = ofTag t) ∧
      ∀ a b : String, List.Forall₂ SameLetter a.toList b.toList → ruleFor? a = ruleFor? b := by
  refine ⟨fun p t pattern hpattern hend => ?_, fun a b hab => ?_⟩
  · rw [← Rule.patterns_suffix] at hpattern
    obtain ⟨q, hq, rfl⟩ := List.mem_map.1 hpattern
    exact ofTag_append hq ((Rule.accepts_suffix_iff (Rule.tier_of_mem hq)).2 hend)
  · rw [ruleFor?, ruleFor?, lowerAscii_eq_iff.2 hab]

/-- A tag that ends in two of the patterns, after a text that holds others. -/
theorem settled_by_end_radioButton :
    "radiobutton".toList <:+ (lowerAscii "RadioBUTTON").toList ∧
      ofTag ("ns:form_é_panel" ++ "RadioBUTTON") = ofTag "RadioBUTTON" ∧ ofTag "RadioBUTTON" = .pushButton ∧
      List.Forall₂ SameLetter "TextVIEW".toList "tEXTview".toList ∧
      ruleFor? "TextVIEW" = ruleFor? "tEXTview" := by
  have hend : "radiobutton".toList <:+ (lowerAscii "RadioBUTTON").toList := by decide +kernel
  have hcase : List.Forall₂ SameLetter "TextVIEW".toList "tEXTview".toList :=
    lowerAscii_eq_iff.1 (by decide +kernel)
  exact ⟨hend, settled_by_end.1 _ _ _ (by decide) hend, by decide +kernel, hcase, settled_by_end.2 _ _ hcase⟩

end Archetype
end WidgetLocator
