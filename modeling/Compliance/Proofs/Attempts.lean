/-!
Computations that may fail, and when they succeed: what the last step gives was made
of what the steps before it gave.
-/

namespace Compliance

theorem toOption_eq_some_iff {ε α : Type} {result : Except ε α} {value : α} :
    result.toOption = some value ↔ result = .ok value := by
  cases result <;> simp [Except.toOption]

theorem mapError_eq_ok_iff {ε ε' α : Type} {result : Except ε α} {f : ε → ε'}
    {value : α} : result.mapError f = .ok value ↔ result = .ok value := by
  constructor
  · intro h
    cases result with
    | error failure => cases h
    | ok found =>
      cases h
      rfl
  · rintro rfl
    rfl

theorem map_eq_ok_iff {ε α β : Type} {result : Except ε α} {f : α → β} {value : β} :
    result.map f = .ok value ↔ ∃ found, result = .ok found ∧ f found = value := by
  cases result <;> simp [Except.map]

theorem bind_eq_ok_iff {ε α β : Type} {result : Except ε α} {f : α → Except ε β}
    {value : β} :
    result >>= f = .ok value ↔ ∃ found, result = .ok found ∧ f found = .ok value := by
  cases result <;> simp [bind, Except.bind]

end Compliance
