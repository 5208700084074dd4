/-!
# Computations that may fail

When a row of two computations succeeds, and when a changed result is one. A
computation that checks several things reports the faults of all of them when it
fails with the first one there is.

- `Except.bind_eq_ok_iff`, `Except.map_eq_ok_iff`, `Except.mapError_eq_ok_iff`.
- `Except.toOption_bind`, `Except.toOption_map`: outcomes that are compared without regard
  to faults. `Except.eq_ok_iff_of_toOption` goes back to results.
- `Except.Reports`: a computation fails with the first fault of a list, and
  succeeds when there is none; `Except.Reports.bind` puts the faults of two
  computations in a row behind each other.
-/

namespace Except

variable {ε δ α β : Type}

/-- Two steps succeed when the first does, and the second does with what it gave. -/
theorem bind_eq_ok_iff {x : Except ε α} {f : α → Except ε β} {b : β} :
    x >>= f = .ok b ↔ ∃ a, x = .ok a ∧ f a = .ok b := by
  cases x <;> simp [bind, Except.bind]

theorem map_eq_ok_iff {x : Except ε α} {f : α → β} {b : β} :
    x.map f = .ok b ↔ ∃ a, x = .ok a ∧ f a = b := by
  cases x <;> simp [Except.map]

theorem mapError_eq_ok_iff {x : Except ε α} {f : ε → δ} {a : α} :
    x.mapError f = .ok a ↔ x = .ok a := by
  cases x with
  | error e => exact ⟨nofun, nofun⟩
  | ok b =>
    constructor
    · intro h
      cases h
      rfl
    · intro h
      cases h
      rfl

/-! ## Outcomes without faults -/

theorem toOption_bind (x : Except ε α) (f : α → Except ε β) :
    (x >>= f).toOption = x.toOption.bind fun a => (f a).toOption := by
  cases x with
  | error e => rfl
  | ok a => rfl

theorem toOption_map (x : Except ε α) (f : α → β) :
    (x.map f).toOption = x.toOption.map f := by
  cases x with
  | error e => rfl
  | ok a => rfl

theorem toOption_eq_some_iff {x : Except ε α} {a : α} : x.toOption = some a ↔ x = .ok a := by
  cases x with
  | error e => exact ⟨nofun, nofun⟩
  | ok b => exact ⟨fun h => congrArg Except.ok (Option.some_inj.mp h), fun h => by rw [h]; rfl⟩

/-- Two outcomes that differ in their errors alone succeed with the same values. -/
theorem eq_ok_iff_of_toOption {x : Except ε α} {y : Except δ α} (h : x.toOption = y.toOption)
    (a : α) : x = .ok a ↔ y = .ok a := by
  rw [← toOption_eq_some_iff, h, toOption_eq_some_iff]

/-! ## Faults in order -/

/-- A computation fails with the first fault of a list, and succeeds when there
is none. -/
def Reports (x : Except ε α) (faults : List ε) : Prop :=
  match x with
  | .ok _ => faults = []
  | .error fault => faults.head? = some fault

namespace Reports

variable {x : Except ε α} {faults others : List ε}

/-- The error is the first of the faults. -/
theorem error_iff (h : x.Reports faults) {fault : ε} :
    x = .error fault ↔ faults.head? = some fault := by
  cases x with
  | error e =>
    have hhead : faults.head? = some e := h
    simp [hhead]
  | ok a =>
    have hnil : faults = [] := h
    simp [hnil]

/-- Without faults, and only then, there is a success. -/
theorem exists_ok_iff (h : x.Reports faults) : (∃ a, x = .ok a) ↔ faults = [] := by
  cases x with
  | error e =>
    have hhead : faults.head? = some e := h
    constructor
    · rintro ⟨a, ha⟩
      cases ha
    · rintro rfl
      cases hhead
  | ok a => exact ⟨fun _ => h, fun _ => ⟨a, rfl⟩⟩

/-- A change of the value does not change what is reported. -/
theorem map (h : x.Reports faults) (f : α → β) : (x.map f).Reports faults := by
  cases x with
  | error e => exact h
  | ok a => exact h

/-- The faults of what comes second count only when there are none before. -/
theorem bind {f : α → Except ε β} (h : x.Reports faults)
    (hf : ∀ a, x = .ok a → (f a).Reports others) : (x >>= f).Reports (faults ++ others) := by
  cases x with
  | error e =>
    have hhead : faults.head? = some e := h
    show (faults ++ others).head? = some e
    rw [List.head?_append, hhead, Option.some_or]
  | ok a =>
    have hnil : faults = [] := h
    rw [hnil]
    exact hf a rfl

end Reports

end Except
