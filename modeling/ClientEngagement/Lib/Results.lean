import Mathlib

/-!
# Computations that may raise

How a computation in `Except` that ends well is taken apart: `bind_eq_ok` and `map_eq_ok`.
-/

namespace ClientEngagement

variable {ε α β : Type*}

/-- A sequence ends well when both halves do. -/
lemma bind_eq_ok {x : Except ε α} {f : α → Except ε β} {b : β} :
    x.bind f = .ok b ↔ ∃ a, x = .ok a ∧ f a = .ok b := by
  cases x with
  | error e => simp [Except.bind]
  | ok a => simp [Except.bind]

lemma map_eq_ok {x : Except ε α} {f : α → β} {b : β} :
    x.map f = .ok b ↔ ∃ a, x = .ok a ∧ f a = b := by
  cases x with
  | error e => simp [Except.map]
  | ok a => simp [Except.map]

end ClientEngagement
