/-!
# Comparison field by field

When two values compare equal under an order that looks at one field after the other.
-/

namespace MarketHistory

variable {α β : Type} [Ord β] [Std.LawfulEqOrd β] {f : α → β} {a b : α}

/-- Two values compare equal by one field exactly when they agree on it. -/
theorem compareOn_eq_iff : compareOn f a b = .eq ↔ f a = f b :=
  Std.LawfulEqOrd.compare_eq_iff_eq

/-- Two values compare equal by a field and then by `cmp` exactly when they agree on the field
and `cmp` finds them equal. -/
theorem compareLex_compareOn_eq_iff {cmp : α → α → Ordering} :
    compareLex (compareOn f) cmp a b = .eq ↔ f a = f b ∧ cmp a b = .eq := by
  rw [compareLex, Ordering.then_eq_eq, compareOn_eq_iff]

end MarketHistory
