import MarketHistory.Number.Binary64

/-!
# Binary numbers by scaling

A quick way from a decimal numeral to a binary number. The leading digits are rounded to a binary
number, which is multiplied or divided by a power of ten that is rounded as well. As every step is
rounded, the result may lie a little beside the number nearest to the numeral.
-/

namespace MarketHistory

namespace Numeral

open Text

/-- Puts digits behind a number as long as it stays below 2⁶⁴: the number, and the digits that are
left over. -/
def fill (n : Nat) : List Char → Nat × List Char
  | []        => (n, [])
  | c :: rest =>
    let next := 10 * n + digitValue c
    if next < UInt64.size then fill next rest else (n, c :: rest)

/-- The numeral written with these digits before and after the point and this exponent, of which
the leading digits are kept that make a number below 2⁶⁴. What is left over before the point
counts as zeros, what is left over behind it does not count. -/
def ofLeading (negative : Bool) (whole fraction : List Char) (exponent : Int) : Numeral :=
  let (n, left) := fill 0 whole
  let (n, unused) := fill n fraction
  let places := fraction.length - unused.length
  ⟨negative, n, exponent + left.length - places⟩

/-- The leading digits of a whole number. -/
def ofInt (n : Int) : Numeral := ofLeading (n < 0) (Text.digits n.natAbs) [] 0

end Numeral

namespace Binary64

/-- A positive fraction rounded to a number of the format. -/
def roundFraction (num den : Nat) : Nat × Nat :=
  match ofFraction false num den with
  | .finite _ m e => let (p, q) := powerFraction 2 e; (m * p, q)
  | _             => (num, den)

/-- The rounded quotient of a fraction and the rounded power `10 ^ k`. -/
def overPower (x : Nat × Nat) (k : Nat) : Nat × Nat :=
  let (p, q) := roundFraction (Nat.pow 10 k) 1
  roundFraction (x.1 * q) (x.2 * p)

/-- The product of a fraction and the rounded power `10 ^ k`, not rounded. -/
def timesPower (x : Nat × Nat) (k : Nat) : Nat × Nat :=
  let (p, q) := roundFraction (Nat.pow 10 k) 1
  (x.1 * p, x.2 * q)

/-- A positive numeral scaled, where its exponent lies between -616 and 308. Powers below
`10 ^ -308` are divided by in two steps. -/
def scale (n : Numeral) : Nat × Nat :=
  let start := roundFraction n.digits 1
  let places := (-n.exponent).toNat
  if 0 ≤ n.exponent then timesPower start n.exponent.toNat
  else if places ≤ 308 then overPower start places
  else overPower (overPower start 308) (places - 308)

/-- The number that a numeral gives by scaling, unless its exponent or the result is too large. -/
def ofScaled? (n : Numeral) : Option Binary64 :=
  if n.digits = 0 ∨ n.exponent < -616 then some (.finite n.negative 0 0)
  else if 308 < n.exponent then none
  else
    match ofFraction n.negative (scale n).1 (scale n).2 with
    | .infinite _ => none
    | x           => some x

end Binary64

end MarketHistory
