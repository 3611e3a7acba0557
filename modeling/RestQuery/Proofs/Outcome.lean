/-!
# Outcomes that are no error

What it takes for a composed computation to come out without an error.
-/

namespace RestQuery

universe u v w

variable {ε : Type u} {α : Type v} {β : Type w}

/-- A mapped outcome is no error if the outcome is none. -/
theorem map_eq_ok_iff {x : Except ε α} {f : α → β} {b : β} :
    x.map f = .ok b ↔ ∃ a, x = .ok a ∧ f a = b := by
  cases x <;> simp [Except.map]

/-- A sequence of two computations comes out without an error if both do. -/
theorem bind_eq_ok_iff {x : Except ε α} {f : α → Except ε β} {b : β} :
    x.bind f = .ok b ↔ ∃ a, x = .ok a ∧ f a = .ok b := by
  cases x <;> simp [Except.bind]

end RestQuery
