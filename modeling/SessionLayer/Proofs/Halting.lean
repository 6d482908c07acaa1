import SessionLayer.Time

/-!
# Computations that may not return

A computation in steps returns exactly where each of its steps does, and what is made of a
result does not change whether there is one.
-/

namespace SessionLayer

theorem Except.map_eq_ok {ε α β : Type} {computation : Except ε α} {f : α → β} {result : β} :
    f <$> computation = .ok result ↔ ∃ value, computation = .ok value ∧ f value = result := by
  cases computation <;> simp [Functor.map, Except.map]

theorem Except.map_eq_error {ε α β : Type} {computation : Except ε α} {f : α → β} {fault : ε} :
    f <$> computation = .error fault ↔ computation = .error fault := by
  cases computation <;> simp [Functor.map, Except.map]

namespace Halt

variable {α β : Type}

theorem bind_eq_ok {first : Except Halt α} {next : α → Except Halt β} {result : β} :
    (first >>= next) = .ok result ↔ ∃ value, first = .ok value ∧ next value = .ok result := by
  cases first <;> simp [bind, Except.bind]

theorem bind_eq_error {first : Except Halt α} {next : α → Except Halt β} {halt : Halt} :
    (first >>= next) = .error halt ↔
      first = .error halt ∨ ∃ value, first = .ok value ∧ next value = .error halt := by
  cases first <;> simp [bind, Except.bind]

theorem pure_eq_ok {value result : α} :
    (pure value : Except Halt α) = .ok result ↔ value = result := by
  simp [pure, Except.pure]

/-- A computation returns unless there is a reason why it does not. -/
theorem exists_eq_ok_iff {computation : Except Halt α} :
    (∃ result, computation = .ok result) ↔ ∀ halt, computation ≠ .error halt := by
  cases computation <;> simp

/-- A computation that can be evaluated to a result returns it. -/
theorem exists_of_isSome (computation : Except Halt α)
    (h : computation.toOption.isSome = true) : ∃ result, computation = .ok result := by
  cases computation with
  | error halt => cases h
  | ok result => exact ⟨result, rfl⟩

/-- A computation that can be evaluated returns a result that passes the test. -/
theorem exists_of_any {computation : Except Halt α} {test : α → Bool}
    (h : computation.toOption.any test = true) :
    ∃ result, computation = .ok result ∧ test result = true := by
  cases computation with
  | error halt => cases h
  | ok result => exact ⟨result, rfl, h⟩

end Halt

end SessionLayer
