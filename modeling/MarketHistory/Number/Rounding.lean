/-!
# Rounding quotients

The natural number nearest to a quotient.
-/

namespace MarketHistory

/-- The natural number nearest to `num / den`; a half goes to the even neighbour. -/
def roundDiv (num den : Nat) : Nat :=
  let q := num / den
  let r := num % den
  if 2 * r < den then q
  else if den < 2 * r then q + 1
  else q + q % 2

/-- Rounding moves a quotient by at most a half. -/
theorem roundDiv_near {num den : Nat} (h : 0 < den) :
    2 * num ≤ 2 * den * roundDiv num den + den ∧ 2 * den * roundDiv num den ≤ 2 * num + den := by
  have hd := Nat.div_add_mod num den
  have hm := Nat.mod_lt num h
  generalize hq : num / den = q at hd
  generalize hr : num % den = r at hd hm
  have hmul : 2 * den * (q + 1) = 2 * (den * q) + 2 * den := by grind
  have hmul' : 2 * den * q = 2 * (den * q) := by grind
  unfold roundDiv
  rw [hq, hr]
  dsimp only
  split
  · omega
  · split
    · omega
    · rcases Nat.mod_two_eq_zero_or_one q with h0 | h0
      · rw [h0, Nat.add_zero]; omega
      · rw [h0]; omega

/-- A quotient without remainder is its own nearest number. -/
theorem roundDiv_mul {q den : Nat} (h : 0 < den) : roundDiv (q * den) den = q := by
  simp [roundDiv, Nat.mul_div_cancel q h, h]

end MarketHistory
