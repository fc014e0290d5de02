/-! When a computation that can fail gives a value, and when it fails. -/

namespace WidgetLocator

variable {ε ε' α β : Type}

theorem bind_eq_ok_iff {x : Except ε α} {f : α → Except ε β} {b : β} :
    x >>= f = .ok b ↔ ∃ a, x = .ok a ∧ f a = .ok b := by
  cases x <;> simp [bind, Except.bind]

theorem bind_eq_error_iff {x : Except ε α} {f : α → Except ε β} {e : ε} :
    x >>= f = .error e ↔ x = .error e ∨ ∃ a, x = .ok a ∧ f a = .error e := by
  cases x <;> simp [bind, Except.bind]

theorem map_eq_ok_iff {x : Except ε α} {f : α → β} {b : β} :
    x.map f = .ok b ↔ ∃ a, x = .ok a ∧ f a = b := by
  cases x <;> simp [Except.map]

theorem map_eq_error_iff {x : Except ε α} {f : α → β} {e : ε} : x.map f = .error e ↔ x = .error e := by
  cases x <;> simp [Except.map]

theorem mapError_eq_ok_iff {f : ε → ε'} {x : Except ε α} {a : α} : x.mapError f = .ok a ↔ x = .ok a := by
  constructor
  · intro h
    cases x with
    | error e => cases h
    | ok b => cases h; rfl
  · intro h
    subst h
    rfl

theorem mapError_eq_error_iff {f : ε → ε'} {x : Except ε α} {e' : ε'} :
    x.mapError f = .error e' ↔ ∃ e, x = .error e ∧ f e = e' := by
  constructor
  · intro h
    cases x with
    | error e => exact ⟨e, rfl, Except.error.inj h⟩
    | ok a => cases h
  · rintro ⟨e, rfl, rfl⟩
    rfl

/-- Results that differ in their errors only are the same when they are no errors. -/
theorem eq_ok_iff_of_mapError {f : ε → ε'} {x y : Except ε α} (h : x.mapError f = y.mapError f) {a : α} :
    x = .ok a ↔ y = .ok a := by
  rw [← mapError_eq_ok_iff, h, mapError_eq_ok_iff]

theorem mapError_eq_self_iff {f : ε → ε} {x : Except ε α} :
    x.mapError f = x ↔ ∀ e, x = .error e → f e = e := by
  cases x with
  | error e =>
    constructor
    · rintro h e ⟨⟩
      exact Except.error.inj h
    · exact fun h => congrArg Except.error (h e rfl)
  | ok a => exact ⟨nofun, fun _ => rfl⟩

end WidgetLocator
