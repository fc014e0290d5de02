import Mathlib.Data.String.Basic

/-! Byte sizes of strings through their characters. -/

namespace WidgetLocator.Text

theorem toByteArray_eq (s : String) :
    s.toByteArray = (s.toList.flatMap String.utf8EncodeChar).toByteArray := by
  have h : (String.ofList s.toList).toByteArray = s.toList.utf8Encode := String.toByteArray_ofList
  rw [String.ofList_toList] at h
  exact h

theorem utf8Len_pos {cs : List Char} (h : cs ≠ []) : 0 < String.utf8Len cs := by
  obtain ⟨c, cs, rfl⟩ := List.exists_cons_of_ne_nil h
  exact Nat.add_pos_right _ c.utf8Size_pos

theorem utf8Len_replicate (n : Nat) (c : Char) : String.utf8Len (List.replicate n c) = n * c.utf8Size := by
  induction n with
  | zero => simp
  | succ n ih => rw [List.replicate_succ, String.utf8Len_cons, ih, Nat.succ_mul]

/-- Of two beginnings of a text the one that takes up fewer bytes is a beginning of the other. -/
theorem prefix_of_utf8Len_le {x y z : List Char} (hx : x <+: z) (hy : y <+: z)
    (h : String.utf8Len x ≤ String.utf8Len y) : x <+: y := by
  rcases List.prefix_or_prefix_of_prefix hx hy with hp | hp
  · exact hp
  · obtain ⟨r, rfl⟩ := hp
    cases r with
    | nil => simp
    | cons c r =>
      have hpos := c.utf8Size_pos
      rw [String.utf8Len_append, String.utf8Len_cons] at h
      omega

theorem eq_of_utf8Len_eq {x y z : List Char} (hx : x <+: z) (hy : y <+: z)
    (h : String.utf8Len x = String.utf8Len y) : x = y := by
  have hxy := prefix_of_utf8Len_le hx hy (Nat.le_of_eq h)
  have hyx := prefix_of_utf8Len_le hy hx (Nat.le_of_eq h.symm)
  exact hxy.eq_of_length_le hyx.length_le

end WidgetLocator.Text
