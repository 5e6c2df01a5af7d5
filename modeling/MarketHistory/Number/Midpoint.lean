import MarketHistory.Number.Decimal

/-!
# Sums and halves of decimal numbers

Each result is the exact one, rounded half to even with as many places as leave its magnitude
below 2⁹⁶, and 28 at most.
-/

namespace MarketHistory.Decimal

/-- The number nearest to `± num / 10 ^ places` with `scale` places, if its magnitude fits. -/
def roundAt? (negative : Bool) (num places scale : Nat) : Option Decimal :=
  ofParts? negative (roundDiv (num * Nat.pow 10 scale) (Nat.pow 10 places)) scale

/-- The number nearest to `± num / 10 ^ places` with as many places as fit, starting from
`scale`. -/
def roundFrom? (negative : Bool) (num places : Nat) : (scale : Nat) → Option Decimal
  | 0         => roundAt? negative num places 0
  | scale + 1 =>
    roundAt? negative num places (scale + 1) <|> roundFrom? negative num places scale

/-- The number nearest to `num / 10 ^ places` with as many places as fit. -/
def round? (num : Int) (places : Nat) : Option Decimal :=
  roundFrom? (num < 0) num.natAbs places 28

/-- The sum of two numbers, if it is not too large. -/
def add? (a b : Decimal) : Option Decimal :=
  round? (a.signed * Nat.pow 10 (28 - a.scale) + b.signed * Nat.pow 10 (28 - b.scale)) 28

/-- Half of a number. -/
def half? (a : Decimal) : Option Decimal := round? (5 * a.signed) (a.scale + 1)

/-- The number half way between two numbers, if their sum is not too large. -/
def midpoint? (a b : Decimal) : Option Decimal := do (← add? a b).half?

end MarketHistory.Decimal
