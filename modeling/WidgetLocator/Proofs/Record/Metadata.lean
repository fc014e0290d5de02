import Mathlib.Data.List.Induction
import WidgetLocator.Proofs.Entries
import WidgetLocator.Record.Metadata

/-! Documents of metadata. A document holds nothing that has not been written into it, and each key that
has been written is in it once: in the place of its first write and with the value of its last one. -/

namespace WidgetLocator

theorem putEntry_eq_put (key : String) (value : Value) (entries : List (String × Value)) :
    putEntry key value entries = Entries.put key value entries := by
  induction entries with
  | nil => rfl
  | cons e entries ih => rw [putEntry, Entries.put, ih]

namespace Metadata

variable {key k : String} {value v : Value} {writes : List (String × Value)} {w e : String × Value}
  {m : Metadata}

theorem mem_insert (h : e ∈ (m.insert key value).entries) : e = (key, value) ∨ e ∈ m.entries :=
  Entries.mem_put (putEntry_eq_put _ _ _ ▸ h)

theorem keys_insert : (m.insert key value).keys = if key ∈ m.keys then m.keys else m.keys ++ [key] := by
  rw [keys, insert, putEntry_eq_put]
  exact Entries.map_fst_put

theorem nodup_keys_insert (h : m.keys.Nodup) : (m.insert key value).keys.Nodup := by
  rw [keys, insert, putEntry_eq_put]
  exact Entries.nodup_put h

theorem get?_insert : (m.insert key value).get? k = if k = key then some value else m.get? k := by
  rw [get?, insert, putEntry_eq_put]
  exact Entries.lookup_put

theorem ofWrites_concat (writes : List (String × Value)) (w : String × Value) :
    ofWrites (writes ++ [w]) = (ofWrites writes).insert w.1 w.2 := by
  rw [ofWrites, List.foldl_append]
  rfl

theorem mem_ofWrites (h : e ∈ (ofWrites writes).entries) : e ∈ writes := by
  induction writes using List.reverseRecOn with
  | nil => cases h
  | append_singleton writes w ih =>
    rw [ofWrites_concat] at h
    obtain rfl | h := mem_insert h
    · exact List.mem_append_right _ List.mem_cons_self
    · exact List.mem_append_left _ (ih h)

/-- The keys come in the order of their first writes. -/
theorem keys_ofWrites (writes : List (String × Value)) :
    (ofWrites writes).keys = (writes.map Prod.fst).eraseDups := by
  induction writes using List.reverseRecOn with
  | nil => rfl
  | append_singleton writes w ih =>
    have hkey : w.1 ∈ (ofWrites writes).keys ↔ w.1 ∈ writes.map Prod.fst := by rw [ih, List.mem_eraseDups]
    rw [ofWrites_concat, keys_insert, List.map_append, List.map_singleton, List.eraseDups_append, ← ih]
    by_cases hw : w.1 ∈ writes.map Prod.fst <;> simp [hkey, hw, List.removeAll, List.eraseDups_cons]

theorem mem_keys_ofWrites : k ∈ (ofWrites writes).keys ↔ k ∈ writes.map Prod.fst := by
  rw [keys_ofWrites, List.mem_eraseDups]

theorem nodup_keys_ofWrites (writes : List (String × Value)) : (ofWrites writes).keys.Nodup := by
  induction writes using List.reverseRecOn with
  | nil => exact List.nodup_nil
  | append_singleton writes w ih =>
    rw [ofWrites_concat]
    exact nodup_keys_insert ih

theorem get?_ofWrites (writes : List (String × Value)) (k : String) :
    (ofWrites writes).get? k = writes.reverse.lookup k := by
  induction writes using List.reverseRecOn with
  | nil => rfl
  | append_singleton writes w ih =>
    rw [ofWrites_concat, get?_insert, ih, List.reverse_concat]
    exact Entries.lookup_entry.symm

/-- What is found under a key is what was written there last. -/
theorem get?_ofWrites_eq_some_iff : (ofWrites writes).get? k = some v ↔
    ∃ before after, writes = before ++ (k, v) :: after ∧ k ∉ after.map Prod.fst := by
  have hother (ws : List (String × Value)) : (∀ w ∈ ws, (k != w.1) = true) ↔ k ∉ ws.map Prod.fst := by
    simp only [List.mem_map, not_exists, not_and, bne_iff_ne, ne_comm, ne_eq]
  rw [get?_ofWrites, List.lookup_eq_some_iff]
  simp only [hother]
  -- the document is searched from the last write to the first
  constructor
  · rintro ⟨after, before, hwrites, hafter⟩
    exact ⟨before.reverse, after.reverse, by simpa using congrArg List.reverse hwrites, by simpa using hafter⟩
  · rintro ⟨before, after, rfl, hafter⟩
    exact ⟨after.reverse, before.reverse, by simp, by simpa using hafter⟩

end Metadata

end WidgetLocator
