import Mathlib.Data.List.Infix
import WidgetLocator.Widget.Rule

/-! Which rule decides for a tag. The table lists its tiers one after the other, so the first rule that
matches a tag is also the first one of the earliest tier in which any rule matches. A rule never decides
if an earlier one matches wherever it does, and this happens to one rule of the table: whatever ends in
"radiobutton" ends in "button". -/

namespace WidgetLocator

/-- The place of a tier in the order in which tiers are tried. -/
def Tier.rank : Tier → Nat
  | exact => 0
  | suffix => 1
  | substring => 2

theorem Tier.rank_injective : Function.Injective Tier.rank := by
  intro t u h
  cases t <;> cases u <;> simp_all [Tier.rank]

theorem occursIn_iff {pattern cs : List Char} : occursIn pattern cs ↔ pattern <:+: cs := by
  induction cs with
  | nil => simp [occursIn]
  | cons c cs ih => rw [occursIn, Bool.or_eq_true, ih, List.isPrefixOf_iff_prefix, List.infix_cons_iff]

namespace Rule

/-- What a rule asks of a tag: to be its pattern, to end in it or to contain it. -/
def Matches (r : Rule) (tag : String) : Prop :=
  match r.tier with
  | .exact => tag = r.pattern
  | .suffix => r.pattern.toList <:+ tag.toList
  | .substring => r.pattern.toList <:+: tag.toList

/-- The rule stands in the row and matches the tag, and any other rule that matches it is of a later tier
or comes after this one in the same tier. -/
structure Leads (r : Rule) (row : Nat) (tag : String) : Prop where
  listed : table[row]? = some r
  matched : r.Matches tag
  least : ∀ row' q, table[row']? = some q → q.Matches tag →
    r.tier.rank < q.tier.rank ∨ r.tier = q.tier ∧ row ≤ row'

/-- The rule that another one of its tier keeps from ever deciding. -/
def shadowed : Rule := ⟨.suffix, "radiobutton", .radioButton⟩

def specimen (r : Rule) : String :=
  match r.tier with
  | .exact => r.pattern
  | .suffix => "x" ++ r.pattern
  | .substring => r.pattern ++ "x"

section Table

variable {r q : Rule} {tag : String}

theorem accepts_iff : r.accepts tag ↔ r.Matches tag := by
  rw [accepts, Matches]
  cases r.tier with
  | exact => exact beq_iff_eq
  | suffix => exact List.isSuffixOf_iff_suffix
  | substring => exact occursIn_iff

theorem matches_suffix_iff (hr : r.tier = .suffix) : r.Matches tag ↔ r.pattern.toList <:+ tag.toList := by
  rw [Matches, hr]

/-- A pattern matches wherever another one does that ends in it. -/
theorem Matches.of_suffix (hr : r.tier = .suffix) (hq : q.tier = .suffix)
    (hpattern : q.pattern.toList <:+ r.pattern.toList) (hmatch : r.Matches tag) : q.Matches tag :=
  (matches_suffix_iff hq).2 (hpattern.trans ((matches_suffix_iff hr).1 hmatch))

theorem table_sorted : table.Pairwise fun r q => r.tier.rank ≤ q.tier.rank := by decide

theorem table_nodup : table.Nodup := by decide

theorem rank_le_of_lt {i j : Nat} (hij : i < j) (hq : table[i]? = some q) (hr : table[j]? = some r) :
    q.tier.rank ≤ r.tier.rank := by
  obtain ⟨hi, rfl⟩ := List.getElem?_eq_some_iff.1 hq
  obtain ⟨hj, rfl⟩ := List.getElem?_eq_some_iff.1 hr
  exact List.pairwise_iff_getElem.1 table_sorted i j hi hj hij

theorem Leads.le {row row' : Nat} (h : r.Leads row tag) (hq : table[row']? = some q) (hmatch : q.Matches tag) :
    row ≤ row' := by
  obtain hlt | ⟨-, hle⟩ := h.least row' q hq hmatch
  · by_contra hrow
    have hrank := rank_le_of_lt (by omega) hq h.listed
    omega
  · exact hle

end Table

end Rule

namespace Archetype

variable {r : Rule} {tag : String}

theorem ruleFor?_eq_some_iff : ruleFor? tag = some r ↔ ∃ row, r.Leads row (lowerAscii tag) := by
  rw [ruleFor?, List.find?_eq_some_iff_getElem, Rule.accepts_iff]
  constructor
  · rintro ⟨hr, i, hi, rfl, hbefore⟩
    have hlisted : Rule.table[i]? = some Rule.table[i] := List.getElem?_eq_getElem hi
    refine ⟨i, hlisted, hr, fun j q hq hmatch => ?_⟩
    have hij : i ≤ j := by
      by_contra hji
      obtain ⟨hj, rfl⟩ := List.getElem?_eq_some_iff.1 hq
      simpa [Rule.accepts_iff.2 hmatch] using hbefore j (by omega)
    obtain rfl | hlt := Nat.eq_or_lt_of_le hij
    · obtain rfl := Option.some.inj (hlisted.symm.trans hq)
      exact .inr ⟨rfl, le_rfl⟩
    · obtain hrank | hrank := Nat.lt_or_eq_of_le (Rule.rank_le_of_lt hlt hlisted hq)
      · exact .inl hrank
      · exact .inr ⟨Tier.rank_injective hrank, hij⟩
  · rintro ⟨i, hleads⟩
    obtain ⟨hi, hrow⟩ := List.getElem?_eq_some_iff.1 hleads.listed
    refine ⟨hleads.matched, i, hi, hrow, fun j hji => ?_⟩
    rw [Bool.not_eq_true', ← Bool.not_eq_true, Rule.accepts_iff]
    intro hmatch
    have hij := hleads.le (List.getElem?_eq_getElem (by omega)) hmatch
    omega

theorem ruleFor?_eq_none_iff :
    ruleFor? tag = none ↔ ∀ r ∈ Rule.table, ¬ r.Matches (lowerAscii tag) := by
  simp only [ruleFor?, List.find?_eq_none, Rule.accepts_iff]

theorem ruleFor?_specimen : ∀ r ∈ Rule.table, r ≠ .shadowed → ruleFor? r.specimen = some r := by
  decide +kernel

theorem ruleFor?_ne_shadowed (tag : String) : ruleFor? tag ≠ some .shadowed := by
  intro h
  obtain ⟨row, hleads⟩ := ruleFor?_eq_some_iff.1 h
  -- the rule of this row comes first, and what ends in the one pattern ends in the other
  have hlisted : Rule.table[4]? = some ⟨.suffix, "button", .pushButton⟩ := rfl
  have hpattern : "button".toList <:+ Rule.shadowed.pattern.toList := ⟨"radio".toList, rfl⟩
  have hrow : row ≤ 4 := hleads.le hlisted (hleads.matched.of_suffix rfl rfl hpattern)
  have hfirst : ∀ row ≤ 4, Rule.table[row]? ≠ some .shadowed := by decide
  exact hfirst row hrow hleads.listed

/-- The rule that decides for a tag is the first one of the earliest tier among those that match it, and
there is none only if none matches. All rules of the table but one decide for some tag, and no tag has the
archetype of that one. -/
theorem ruleFor?_tiered :
    (∀ tag r, ruleFor? tag = some r ↔ ∃ row, r.Leads row (lowerAscii tag)) ∧
      (∀ tag, ruleFor? tag = none ↔ ∀ r ∈ Rule.table, ¬ r.Matches (lowerAscii tag)) ∧
      (Rule.table.length = 18 ∧ Rule.table.Nodup ∧ .shadowed ∈ Rule.table) ∧
      (∀ r ∈ Rule.table, (∃ tag, ruleFor? tag = some r) ↔ r ≠ .shadowed) ∧
      ∀ tag, ofTag tag ≠ .radioButton := by
  refine ⟨fun _ _ => ruleFor?_eq_some_iff, fun _ => ruleFor?_eq_none_iff,
    ⟨rfl, Rule.table_nodup, by decide⟩, fun r hr => ⟨?_, fun hne => ⟨_, ruleFor?_specimen r hr hne⟩⟩,
    fun tag htag => ?_⟩
  · rintro ⟨tag, htag⟩ rfl
    exact ruleFor?_ne_shadowed tag htag
  · have honly : ∀ r ∈ Rule.table, r.archetype = .radioButton → r = .shadowed := by decide
    cases hrule : ruleFor? tag with
    | none => simp [ofTag, hrule] at htag
    | some r =>
      have hr : r.archetype = .radioButton := by simpa [ofTag, hrule] using htag
      have hmem : r ∈ Rule.table := List.mem_of_find?_eq_some hrule
      exact ruleFor?_ne_shadowed tag (honly r hmem hr ▸ hrule)

end Archetype
end WidgetLocator
