import Mathlib.Data.List.Nodup

/-! Lists of entries under keys. Metadata and the formats of a registry are written in the same way: an
entry takes the place of the one that has its key, and if there is none, it comes last. -/

namespace WidgetLocator.Entries

variable {α : Type} {key k : String} {a b : α} {entries : List (String × α)} {e : String × α}

def put (key : String) (a : α) : List (String × α) → List (String × α)
  | [] => [(key, a)]
  | (k, b) :: rest => if k = key then (key, a) :: rest else (k, b) :: put key a rest

theorem lookup_entry : ((key, a) :: entries).lookup k = if k = key then some a else entries.lookup k := by
  by_cases h : k = key
  · simp [h]
  · rw [List.lookup_cons, beq_eq_false_iff_ne.2 h, if_neg h]

theorem isSome_lookup : (entries.lookup k).isSome = true ↔ k ∈ entries.map Prod.fst := by
  induction entries with
  | nil => simp
  | cons e entries ih =>
    rw [lookup_entry, List.map_cons, List.mem_cons]
    by_cases h : k = e.1
    · simp [h]
    · rw [if_neg h, ih]
      simp [h]

theorem mem_put (h : e ∈ put key a entries) : e = (key, a) ∨ e ∈ entries := by
  induction entries with
  | nil => exact .inl (List.mem_singleton.1 h)
  | cons f entries ih =>
    rw [put] at h
    split at h
    · exact (List.mem_cons.1 h).imp_right (List.mem_cons_of_mem _)
    · obtain rfl | h := List.mem_cons.1 h
      · exact .inr List.mem_cons_self
      · exact (ih h).imp_right (List.mem_cons_of_mem _)

theorem lookup_put : (put key a entries).lookup k = if k = key then some a else entries.lookup k := by
  induction entries with
  | nil => exact lookup_entry
  | cons e entries ih =>
    rw [put]
    by_cases he : e.1 = key
    · rw [if_pos he, lookup_entry, lookup_entry, he]
      split <;> rfl
    · rw [if_neg he, lookup_entry, lookup_entry, ih]
      by_cases h : k = e.1
      · rw [if_pos h, if_pos h, if_neg (h ▸ he)]
      · rw [if_neg h, if_neg h]

/-- A key that is there keeps its place, and another is added at the end. -/
theorem map_fst_put : (put key a entries).map Prod.fst =
    if key ∈ entries.map Prod.fst then entries.map Prod.fst else entries.map Prod.fst ++ [key] := by
  induction entries with
  | nil => rfl
  | cons e entries ih =>
    rw [put]
    by_cases he : e.1 = key
    · simp [he]
    · rw [if_neg he, List.map_cons, ih]
      by_cases hkey : key ∈ entries.map Prod.fst
      · simp [hkey]
      · simp [hkey, Ne.symm he]

theorem nodup_put (h : (entries.map Prod.fst).Nodup) : ((put key a entries).map Prod.fst).Nodup := by
  rw [map_fst_put]
  split
  · exact h
  · next hkey => exact List.concat_eq_append ▸ List.Nodup.concat hkey h

end WidgetLocator.Entries
