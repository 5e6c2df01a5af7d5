import MarketHistory.Data.Observation
import Mathlib.Tactic.FieldSimp
import Mathlib.Tactic.Linarith
import Mathlib.Tactic.Positivity
import Mathlib.Tactic.Ring

/-!
# The price half way between the sides

Rounding to as many places as fit never passes a number of the format
(`Decimal.keepsSides_round?`). The closing price of a bar of quotes is rounded twice, first the sum
of the sides and then its half. It lies between the sides exactly if the rounded sum lies between
twice the one and twice the other (`QuoteBar.close_between_iff`): only the first step can go wrong,
and only where the exact sum has more digits than fit.
-/

namespace MarketHistory

/-! ### Nearest numbers -/

section

variable {num den q : Nat}

lemma roundDiv_le (hden : 0 < den) (h : num ≤ q * den) : roundDiv num den ≤ q := by
  obtain ⟨-, hnear⟩ := @roundDiv_near num den hden
  by_contra hlt
  have hmul : den * (q + 1) ≤ den * roundDiv num den := Nat.mul_le_mul_left _ (by omega)
  grind

lemma lt_roundDiv (hden : 0 < den) (h : (2 * q + 1) * den < 2 * num) : q < roundDiv num den := by
  obtain ⟨hnear, -⟩ := @roundDiv_near num den hden
  by_contra hle
  have hmul : den * roundDiv num den ≤ den * q := Nat.mul_le_mul_left _ (by omega)
  grind

lemma le_roundDiv (hden : 0 < den) (h : q * den ≤ num) : q ≤ roundDiv num den := by
  cases q with
  | zero => exact Nat.zero_le _
  | succ q => exact lt_roundDiv hden (by grind)

lemma le_of_le_roundDiv (hden : 0 < den) (h : q ≤ roundDiv num den) :
    2 * q * den ≤ 2 * num + den := by
  obtain ⟨-, hnear⟩ := @roundDiv_near num den hden
  have hmul : den * q ≤ den * roundDiv num den := Nat.mul_le_mul_left _ h
  grind

end

namespace Decimal

lemma eq_of_ofParts? {negative : Bool} {magnitude scale : Nat} {d : Decimal}
    (h : ofParts? negative magnitude scale = some d) :
    d.negative = (negative && magnitude != 0) ∧ d.magnitude = magnitude ∧ d.scale = scale := by
  unfold ofParts? at h
  split at h
  · cases h
    exact ⟨rfl, rfl, rfl⟩
  · cases h

/-! ### Rounding to as many places as fit -/

/-- The number `d` has the magnitude nearest to `num / 10 ^ places` with its places, and with one
more place, up to 28, that magnitude would not fit. -/
structure IsRounded (num places : Nat) (d : Decimal) : Prop where
  magnitude : d.magnitude = roundDiv (num * 10 ^ d.scale) (10 ^ places)
  full      : d.scale < 28 → 2 ^ 96 ≤ roundDiv (num * 10 ^ (d.scale + 1)) (10 ^ places)

lemma isRounded_of_roundFrom? {negative : Bool} {num places scale : Nat} {d : Decimal}
    (hscale : scale ≤ 28)
    (hfull : scale < 28 → 2 ^ 96 ≤ roundDiv (num * 10 ^ (scale + 1)) (10 ^ places))
    (h : roundFrom? negative num places scale = some d) :
    IsRounded num places d ∧ d.negative = (negative && d.magnitude != 0) := by
  have hat {scale : Nat} (hfull : scale < 28 →
        2 ^ 96 ≤ roundDiv (num * 10 ^ (scale + 1)) (10 ^ places))
      (h : roundAt? negative num places scale = some d) :
      IsRounded num places d ∧ d.negative = (negative && d.magnitude != 0) := by
    obtain ⟨hnegative, hmagnitude, rfl⟩ := eq_of_ofParts? h
    exact ⟨⟨hmagnitude, hfull⟩, hmagnitude ▸ hnegative⟩
  induction scale with
  | zero => exact hat hfull h
  | succ scale ih =>
    rw [roundFrom?, Option.orElse_eq_some] at h
    rcases h with h | ⟨hnone, h⟩
    · exact hat hfull h
    · refine ih (by omega) (fun _ => ?_) h
      rw [roundAt?, ofParts?] at hnone
      split at hnone
      · cases hnone
      next hbig => exact Nat.not_lt.mp fun hlt => hbig ⟨hlt, hscale⟩

lemma mul_le_of_scale_lt {d : Decimal} {q s : Nat} (hs : d.scale < s)
    (hq : q ≤ 10 * d.magnitude) : q * 10 ^ d.scale ≤ d.magnitude * 10 ^ s :=
  calc q * 10 ^ d.scale ≤ 10 * d.magnitude * 10 ^ d.scale := Nat.mul_le_mul_right _ hq
    _ = d.magnitude * 10 ^ (d.scale + 1) := by rw [pow_succ']; grind
    _ ≤ d.magnitude * 10 ^ s := Nat.mul_le_mul_left _ (Nat.pow_le_pow_right (by omega) hs)

namespace IsRounded

variable {num places : Nat} {d : Decimal} (hd : IsRounded num places d) {q m s : Nat}
include hd

lemma pow_mul_le (hs : s ≤ d.scale) (h : num * 10 ^ s ≤ q * 10 ^ places) :
    d.magnitude * 10 ^ s ≤ q * 10 ^ d.scale := by
  obtain ⟨k, hk⟩ := Nat.exists_eq_add_of_le hs
  have hle : d.magnitude ≤ q * 10 ^ k := by
    rw [hd.magnitude]
    refine roundDiv_le (by positivity) ?_
    calc num * 10 ^ d.scale = num * 10 ^ s * 10 ^ k := by rw [hk, pow_add, Nat.mul_assoc]
      _ ≤ q * 10 ^ places * 10 ^ k := Nat.mul_le_mul_right _ h
      _ = q * 10 ^ k * 10 ^ places := Nat.mul_right_comm ..
  calc d.magnitude * 10 ^ s ≤ q * 10 ^ k * 10 ^ s := Nat.mul_le_mul_right _ hle
    _ = q * 10 ^ d.scale := by rw [hk, pow_add, Nat.mul_assoc, Nat.mul_comm (10 ^ k)]

lemma le_pow_mul (hs : s ≤ d.scale) (h : q * 10 ^ places ≤ num * 10 ^ s) :
    q * 10 ^ d.scale ≤ d.magnitude * 10 ^ s := by
  obtain ⟨k, hk⟩ := Nat.exists_eq_add_of_le hs
  have hle : q * 10 ^ k ≤ d.magnitude := by
    rw [hd.magnitude]
    refine le_roundDiv (by positivity) ?_
    calc q * 10 ^ k * 10 ^ places = q * 10 ^ places * 10 ^ k := Nat.mul_right_comm ..
      _ ≤ num * 10 ^ s * 10 ^ k := Nat.mul_le_mul_right _ h
      _ = num * 10 ^ d.scale := by rw [hk, pow_add, Nat.mul_assoc]
  calc q * 10 ^ d.scale = q * 10 ^ k * 10 ^ s := by
        rw [hk, pow_add, Nat.mul_assoc, Nat.mul_comm (10 ^ k)]
    _ ≤ d.magnitude * 10 ^ s := Nat.mul_le_mul_right _ hle

/-- A number of the format with more places than the result is too small for one more place. -/
lemma lt_pow_mul (hs : d.scale < s) (hs' : s ≤ 28) (hm : m < 2 ^ 96) :
    m * 10 ^ places < num * 10 ^ s := by
  have hden : 0 < 10 ^ places := by positivity
  by_contra hle
  have hplace : num * 10 ^ (d.scale + 1) ≤ m * 10 ^ places :=
    (Nat.mul_le_mul_left num (Nat.pow_le_pow_right (by omega) hs)).trans (Nat.not_lt.mp hle)
  have hfull := hd.full (by omega)
  have hround := roundDiv_le hden hplace
  omega

/-- A result with fewer than 28 places has nearly as many digits as fit. -/
lemma le_ten_mul_magnitude (hs : d.scale < 28) : 2 ^ 96 ≤ 10 * d.magnitude := by
  have hden : 0 < 10 ^ places := by positivity
  have hfull := le_of_le_roundDiv hden (hd.full hs)
  have hlt : 7922816251426433759354395033 < d.magnitude := by
    rw [hd.magnitude]
    have hten : num * 10 ^ (d.scale + 1) = 10 * (num * 10 ^ d.scale) := by rw [pow_succ]; grind
    exact lt_roundDiv hden (by omega)
  omega

/-! Rounding does not pass a number `m / 10 ^ s` of the format, from either side. -/

lemma magnitude_le (hm : m < 2 ^ 96) (hs : s ≤ 28) (h : num * 10 ^ s ≤ m * 10 ^ places) :
    d.magnitude * 10 ^ s ≤ m * 10 ^ d.scale := by
  rcases Nat.lt_or_ge d.scale s with hlt | hle
  · exact absurd h (Nat.not_le.mpr (hd.lt_pow_mul hlt hs hm))
  · exact hd.pow_mul_le hle h

lemma le_magnitude (hm : m < 2 ^ 96) (hs : s ≤ 28) (h : m * 10 ^ places ≤ num * 10 ^ s) :
    m * 10 ^ d.scale ≤ d.magnitude * 10 ^ s := by
  rcases Nat.lt_or_ge d.scale s with hlt | hle
  · have hfull := hd.le_ten_mul_magnitude (by omega)
    exact mul_le_of_scale_lt hlt (by omega)
  · exact hd.le_pow_mul hle h

/-! Nor does it pass the double of such a number, unless half of the result has one more place. -/

lemma magnitude_le_double (hbig : 2 ^ 96 ≤ 5 * d.magnitude) (hm : m < 2 ^ 96)
    (h : num * 10 ^ s ≤ 2 * m * 10 ^ places) : d.magnitude * 10 ^ s ≤ 2 * m * 10 ^ d.scale := by
  rcases Nat.lt_or_ge d.scale s with hlt | hle
  · have hden : 0 < 10 ^ places := by positivity
    have hplace : num * 10 ^ (d.scale + 1) ≤ 2 * m * 10 ^ places :=
      (Nat.mul_le_mul_left num (Nat.pow_le_pow_right (by omega) hlt)).trans h
    have hnear := le_of_le_roundDiv hden hd.magnitude.le
    -- five times the magnitude is the next multiple of five above 2⁹⁶ at least
    have hsmall : 20 * d.magnitude * 10 ^ places ≤ (4 * m + 10) * 10 ^ places := by
      rw [pow_succ] at hplace
      linarith
    have := Nat.le_of_mul_le_mul_right hsmall hden
    omega
  · exact hd.pow_mul_le hle h

lemma double_le_magnitude (hbig : 2 ^ 96 ≤ 5 * d.magnitude) (hm : m < 2 ^ 96)
    (h : 2 * m * 10 ^ places ≤ num * 10 ^ s) : 2 * m * 10 ^ d.scale ≤ d.magnitude * 10 ^ s := by
  rcases Nat.lt_or_ge d.scale s with hlt | hle
  · exact mul_le_of_scale_lt hlt (by omega)
  · exact hd.le_pow_mul hle h

end IsRounded

/-! ### Values -/

/-- The number as a quotient. -/
def value (d : Decimal) : ℚ := d.signed / 10 ^ d.scale

/-- The number with the other sign. -/
def opposite (d : Decimal) : Decimal := { d with negative := !d.negative }

lemma value_of_negative {d : Decimal} (h : d.negative = true) :
    d.value = -(d.magnitude / 10 ^ d.scale) := by
  simp only [value, signed, h, if_true, Int.cast_neg, Int.cast_natCast, neg_div]

lemma value_of_not_negative {d : Decimal} (h : d.negative = false) :
    d.value = d.magnitude / 10 ^ d.scale := by
  simp only [value, signed, h, Bool.false_eq_true, if_false, Int.cast_natCast]

lemma value_opposite (d : Decimal) : d.opposite.value = -d.value := by
  cases h : d.negative with
  | true =>
    have hopposite : d.opposite.negative = false := by simp only [opposite, h, Bool.not_true]
    rw [value_of_not_negative hopposite, value_of_negative h, neg_neg]
    rfl
  | false =>
    have hopposite : d.opposite.negative = true := by simp only [opposite, h, Bool.not_false]
    rw [value_of_negative hopposite, value_of_not_negative h]
    rfl

/-- The quotient `z` lies on the same side as `y` of the `c`-fold of each number of the format, or
it is that number. -/
def KeepsSides (c : ℕ) (y z : ℚ) : Prop :=
  ∀ x : Decimal, (y ≤ c * x.value → z ≤ c * x.value) ∧ (c * x.value ≤ y → c * x.value ≤ z)

lemma KeepsSides.neg {c : ℕ} {y z : ℚ} (h : KeepsSides c y z) : KeepsSides c (-y) (-z) := by
  intro x
  have hx := h x.opposite
  rw [value_opposite] at hx
  exact ⟨fun hle => by linarith [hx.2 (by linarith)], fun hle => by linarith [hx.1 (by linarith)]⟩

lemma div_pow_le_div_pow {n q p s : ℕ} :
    (n : ℚ) / 10 ^ p ≤ q / 10 ^ s ↔ n * 10 ^ s ≤ q * 10 ^ p := by
  rw [div_le_div_iff₀ (by positivity) (by positivity)]
  exact_mod_cast Iff.rfl

/-- Of numbers that are not negative, only such numbers have to be compared with. -/
lemma keepsSides_of_magnitudes {c num places magnitude scale : ℕ}
    (hle : ∀ m s, m < 2 ^ 96 → s ≤ 28 → num * 10 ^ s ≤ c * m * 10 ^ places →
      magnitude * 10 ^ s ≤ c * m * 10 ^ scale)
    (hge : ∀ m s, m < 2 ^ 96 → s ≤ 28 → c * m * 10 ^ places ≤ num * 10 ^ s →
      c * m * 10 ^ scale ≤ magnitude * 10 ^ s) :
    KeepsSides c (num / 10 ^ places) (magnitude / 10 ^ scale) := by
  intro x
  have hpos : (0 : ℚ) ≤ num / 10 ^ places := by positivity
  have hpos' : (0 : ℚ) ≤ magnitude / 10 ^ scale := by positivity
  cases hx : x.negative with
  | true =>
    have hneg : c * x.value ≤ 0 := by
      rw [value_of_negative hx]
      have : (0 : ℚ) ≤ c * (x.magnitude / 10 ^ x.scale) := by positivity
      linarith
    refine ⟨fun h => ?_, fun _ => hneg.trans hpos'⟩
    have hzero : (num : ℚ) / 10 ^ places ≤ (0 : ℕ) / 10 ^ 0 := by
      rw [Nat.cast_zero, zero_div]
      linarith
    have hmagnitude := hle 0 0 (by positivity) (Nat.zero_le _) (div_pow_le_div_pow.mp hzero)
    have hvalue := div_pow_le_div_pow.mpr hmagnitude
    rw [Nat.mul_zero, Nat.cast_zero, zero_div] at hvalue
    linarith
  | false =>
    have hvalue : c * x.value = (c * x.magnitude : ℕ) / 10 ^ x.scale := by
      rw [value_of_not_negative hx, Nat.cast_mul, mul_div_assoc]
    rw [hvalue, div_pow_le_div_pow, div_pow_le_div_pow, div_pow_le_div_pow, div_pow_le_div_pow]
    exact ⟨hle _ _ x.magnitude_lt x.scale_le, hge _ _ x.magnitude_lt x.scale_le⟩

section

variable {num : Int} {places : Nat} {d : Decimal}

lemma isRounded_of_round? (h : round? num places = some d) :
    IsRounded num.natAbs places d ∧ d.negative = (decide (num < 0) && d.magnitude != 0) :=
  isRounded_of_roundFrom? (Nat.le_refl 28) (fun h => absurd h (Nat.lt_irrefl 28)) h

/-- The result has the sign of the exact number, so that the magnitudes decide. -/
lemma keepsSides_of_round? {c : ℕ} (h : round? num places = some d)
    (hmagnitude : KeepsSides c (num.natAbs / 10 ^ places) (d.magnitude / 10 ^ d.scale)) :
    KeepsSides c (num / 10 ^ places) d.value := by
  have hsign := (isRounded_of_round? h).2
  rcases lt_or_ge num 0 with hneg | hpos
  · have hnum : (num : ℚ) = -(num.natAbs : ℚ) := by
      rw [← Int.cast_natCast, Int.ofNat_natAbs_of_nonpos hneg.le, Int.cast_neg, neg_neg]
    have hvalue : d.value = -(d.magnitude / 10 ^ d.scale) := by
      cases hd : d.negative with
      | true => exact value_of_negative hd
      | false =>
        have hzero : d.magnitude = 0 := by simpa [hd, hneg] using hsign
        rw [value_of_not_negative hd, hzero, Nat.cast_zero, zero_div, neg_zero]
    rw [hnum, hvalue, neg_div]
    exact hmagnitude.neg
  · have hnum : (num : ℚ) = num.natAbs := by
      rw [← Int.cast_natCast, Int.natAbs_of_nonneg hpos]
    have hd : d.negative = false := by
      rw [hsign, decide_eq_false (Int.not_lt.mpr hpos), Bool.false_and]
    rw [hnum, value_of_not_negative hd]
    exact hmagnitude

/-- Rounding passes no number of the format. -/
lemma keepsSides_round? (h : round? num places = some d) :
    KeepsSides 1 (num / 10 ^ places) d.value := by
  have hd := (isRounded_of_round? h).1
  refine keepsSides_of_round? h (keepsSides_of_magnitudes ?_ ?_)
  · intro m s hm hs hle
    rw [Nat.one_mul] at hle ⊢
    exact hd.magnitude_le hm hs hle
  · intro m s hm hs hle
    rw [Nat.one_mul] at hle ⊢
    exact hd.le_magnitude hm hs hle

/-- Nor does it pass the double of one, if it is exact or half of it has no more places. -/
lemma keepsSides_double_round? (h : round? num places = some d)
    (hbig : d.scale = places ∨ 2 ^ 96 ≤ 5 * d.magnitude) :
    KeepsSides 2 (num / 10 ^ places) d.value := by
  have hd := (isRounded_of_round? h).1
  refine keepsSides_of_round? h ?_
  rcases hbig with hscale | hbig
  · have hexact : num.natAbs = d.magnitude := by
      rw [hd.magnitude, hscale, roundDiv_mul (by positivity)]
    rw [hexact, hscale]
    exact fun x => ⟨id, id⟩
  · exact keepsSides_of_magnitudes (fun m s hm _ => hd.magnitude_le_double hbig hm)
      (fun m s hm _ => hd.double_le_magnitude hbig hm)

end

/-! ### Sums and halves -/

variable {a b sum price : Decimal}

lemma value_eq_finest (d : Decimal) :
    d.value = ((d.signed * Nat.pow 10 (28 - d.scale) : Int) : ℚ) / 10 ^ 28 := by
  have hpow : (10 : ℚ) ^ 28 = 10 ^ (28 - d.scale) * 10 ^ d.scale := by
    rw [← pow_add, Nat.sub_add_cancel d.scale_le]
  rw [hpow, value, Nat.pow_eq]
  push_cast
  field_simp

lemma value_half (d : Decimal) : d.value / 2 = ((5 * d.signed : Int) : ℚ) / 10 ^ (d.scale + 1) := by
  rw [value, pow_succ]
  push_cast
  field_simp
  ring

/-- Taking half passes no number of the format. -/
lemma keepsSides_half? (h : sum.half? = some price) : KeepsSides 1 (sum.value / 2) price.value := by
  rw [value_half]
  exact keepsSides_round? h

/-- Half of a sum is exact, or the sum does not pass the double of a number of the format. -/
lemma exact_or_keepsSides_double (hsum : a.add? b = some sum) (hprice : sum.half? = some price) :
    price.value = sum.value / 2 ∨ KeepsSides 2 (a.value + b.value) sum.value := by
  have hexact : a.value + b.value = ((a.signed * Nat.pow 10 (28 - a.scale) +
      b.signed * Nat.pow 10 (28 - b.scale) : Int) : ℚ) / 10 ^ 28 := by
    rw [a.value_eq_finest, b.value_eq_finest, ← add_div, ← Int.cast_add]
  rw [hexact]
  by_cases hbig : sum.scale = 28 ∨ 2 ^ 96 ≤ 5 * sum.magnitude
  · exact .inr (keepsSides_double_round? hsum hbig)
  · rw [not_or] at hbig
    have hscale := sum.scale_le
    -- half of the sum is a number of the format
    let half : Decimal :=
      ⟨sum.negative, 5 * sum.magnitude, sum.scale + 1, Nat.not_le.mp hbig.2, by omega⟩
    have hsigned : half.signed = 5 * sum.signed := by
      simp only [half, signed]
      split <;> push_cast <;> ring
    have hhalf : half.value = sum.value / 2 := by rw [value_half, value, hsigned]
    have hkeeps := keepsSides_half? hprice half
    rw [hhalf, Nat.cast_one, one_mul] at hkeeps
    exact .inl (le_antisymm (hkeeps.1 le_rfl) (hkeeps.2 le_rfl))

lemma midpoint?_comm (a b : Decimal) : a.midpoint? b = b.midpoint? a := by
  rw [midpoint?, midpoint?, add?, add?, Int.add_comm]

end Decimal

namespace QuoteBar

variable (b : QuoteBar)

/-- The bar with its sides swapped. -/
def swapped : QuoteBar := { b with bid := b.ask, ask := b.bid }

variable {b} {bid ask : Prices}

lemma close_of_two_sides (hbid : b.bid = some bid) (hask : b.ask = some ask) :
    b.close = (bid.closing.midpoint? ask.closing).elim (.error .overflow)
      fun price => .ok (some price) := by
  fun_cases close b with
  | case1 bid' ask' hask' hbid' price hprice =>
    obtain rfl := Option.some.inj (hbid.symm.trans hbid')
    obtain rfl := Option.some.inj (hask.symm.trans hask')
    rw [hprice, Option.elim_some]
  | case2 bid' ask' hask' hbid' hnone =>
    obtain rfl := Option.some.inj (hbid.symm.trans hbid')
    obtain rfl := Option.some.inj (hask.symm.trans hask')
    rw [hnone, Option.elim_none]
  | case3 bid' hask' hbid' => cases hask.symm.trans hask'
  | case4 ask' hask' hbid' => cases hbid.symm.trans hbid'
  | case5 hask' hbid' => cases hbid.symm.trans hbid'

lemma exists_sum_of_close (hbid : b.bid = some bid) (hask : b.ask = some ask) {price : Decimal}
    (h : b.close = .ok (some price)) :
    ∃ sum, bid.closing.add? ask.closing = some sum ∧ sum.half? = some price := by
  refine Option.bind_eq_some_iff.mp ?_
  change bid.closing.midpoint? ask.closing = some price
  rw [close_of_two_sides hbid hask] at h
  cases hmid : bid.closing.midpoint? ask.closing with
  | none =>
    rw [hmid] at h
    cases h
  | some found =>
    rw [hmid] at h
    cases h
    rfl

lemma close_of_midpoint? (hbid : b.bid = some bid) (hask : b.ask = some ask) {price : Decimal}
    (h : bid.closing.midpoint? ask.closing = some price) : b.close = .ok (some price) := by
  rw [close_of_two_sides hbid hask, h]
  rfl

lemma close_swapped (b : QuoteBar) : b.swapped.close = b.close := by
  cases hbid : b.bid with
  | none => cases hask : b.ask <;> rw [close, close, swapped, hbid, hask]
  | some bid =>
    cases hask : b.ask with
    | none => rw [close, close, swapped, hbid, hask]
    | some ask =>
      rw [close_of_two_sides (b := b.swapped) hask hbid, close_of_two_sides hbid hask,
        Decimal.midpoint?_comm]

/-- The closing price of a bar of quotes with two sides is the same if the sides are swapped. It
lies between the closing prices of the sides exactly if their sum, as it is rounded, lies between
twice the one and twice the other. -/
theorem close_between_iff (b : QuoteBar) {bid ask : Prices} (hbid : b.bid = some bid)
    (hask : b.ask = some ask) {price : Decimal} (hclose : b.close = .ok (some price)) :
    let low := min bid.closing.value ask.closing.value
    let high := max bid.closing.value ask.closing.value
    b.swapped.close = b.close ∧ ∃ sum, bid.closing.add? ask.closing = some sum ∧
      (low ≤ price.value ∧ price.value ≤ high ↔ 2 * low ≤ sum.value ∧ sum.value ≤ 2 * high) := by
  intro low high
  obtain ⟨sum, hsum, hprice⟩ := exists_sum_of_close hbid hask hclose
  refine ⟨b.close_swapped, sum, hsum, ?_⟩
  have hadd : bid.closing.value + ask.closing.value = low + high := (min_add_max _ _).symm
  have hle : low ≤ high := min_le_max
  obtain ⟨lower, hlow⟩ : ∃ x : Decimal, x.value = low := by
    rcases min_choice bid.closing.value ask.closing.value with h | h
    · exact ⟨bid.closing, h.symm⟩
    · exact ⟨ask.closing, h.symm⟩
  obtain ⟨upper, hhigh⟩ : ∃ x : Decimal, x.value = high := by
    rcases max_choice bid.closing.value ask.closing.value with h | h
    · exact ⟨bid.closing, h.symm⟩
    · exact ⟨ask.closing, h.symm⟩
  have hhalf := Decimal.keepsSides_half? hprice
  constructor
  · rintro ⟨hprice_low, hprice_high⟩
    rcases Decimal.exact_or_keepsSides_double hsum hprice with hexact | hkeeps
    · constructor <;> linarith
    · have hlower := (hkeeps lower).2
      have hupper := (hkeeps upper).1
      rw [hlow, hadd, Nat.cast_ofNat] at hlower
      rw [hhigh, hadd, Nat.cast_ofNat] at hupper
      exact ⟨hlower (by linarith), hupper (by linarith)⟩
  · rintro ⟨hsum_low, hsum_high⟩
    have hlower := (hhalf lower).2
    have hupper := (hhalf upper).1
    rw [hlow, Nat.cast_one, one_mul] at hlower
    rw [hhigh, Nat.cast_one, one_mul] at hupper
    exact ⟨hlower (by linarith), hupper (by linarith)⟩

/-- A bar of quotes of a currency pair whose sides do not move. -/
def steady (bid ask : Decimal) : QuoteBar :=
  ⟨⟨"EURUSD", .forex, "oanda", false⟩, .first, .first, some (.flat bid), some (.flat ask)⟩

/-- Between 1.1000 and 1.1002 lies 1.1001. -/
theorem close_between_of_usual_prices :
    let bid : Decimal := ⟨false, 11000, 4, by decide, by decide⟩
    let ask : Decimal := ⟨false, 11002, 4, by decide, by decide⟩
    let b := steady bid ask
    ∃ price : Decimal, b.bid = some (.flat bid) ∧ b.ask = some (.flat ask) ∧
      b.close = .ok (some price) ∧ b.swapped.close = .ok (some price) ∧
        bid.value ≤ price.value ∧ price.value ≤ ask.value := by
  intro bid ask b
  let sum : Decimal := ⟨false, 22002 * 10 ^ 24, 28, by decide, by decide⟩
  let price : Decimal := ⟨false, 11001 * 10 ^ 24, 28, by decide, by decide⟩
  have hbid : b.bid = some (.flat bid) := rfl
  have hask : b.ask = some (.flat ask) := rfl
  have hclose : b.close = .ok (some price) := close_of_midpoint? hbid hask (by decide +kernel)
  obtain ⟨hswapped, sum', hsum', hbetween⟩ := close_between_iff b hbid hask hclose
  obtain rfl : sum' = sum := by
    have hsum : (Prices.flat bid).closing.add? (Prices.flat ask).closing = some sum := by
      decide +kernel
    exact Option.some.inj (hsum'.symm.trans hsum)
  have hbid_value : (Prices.flat bid).closing.value = 1.1 := by
    norm_num [Prices.flat, bid, Decimal.value, Decimal.signed]
  have hask_value : (Prices.flat ask).closing.value = 1.1002 := by
    norm_num [Prices.flat, ask, Decimal.value, Decimal.signed]
  have hsum_value : sum.value = 2.2002 := by norm_num [sum, Decimal.value, Decimal.signed]
  refine ⟨price, hbid, hask, hclose, hswapped.trans hclose, ?_⟩
  rw [hbid_value, hask_value, hsum_value, min_eq_left (by norm_num), max_eq_right (by norm_num)]
    at hbetween
  change (Prices.flat bid).closing.value ≤ _ ∧ _ ≤ (Prices.flat ask).closing.value
  rw [hbid_value, hask_value]
  exact hbetween.mpr ⟨by norm_num, by norm_num⟩

/-- The price half way between two equal sides of 5.0000000000000000000000000001 is 5, which is
below both. -/
theorem close_below_equal_sides :
    let side : Decimal := ⟨false, 5 * 10 ^ 28 + 1, 28, by decide, by decide⟩
    ∃ price, (steady side side).close = .ok (some price) ∧ price.value < side.value := by
  intro side
  refine ⟨⟨false, 5 * 10 ^ 28, 28, by decide, by decide⟩,
    close_of_midpoint? (show (steady side side).bid = some (.flat side) from rfl)
      (show (steady side side).ask = some (.flat side) from rfl) (by decide +kernel), ?_⟩
  norm_num [side, Decimal.value, Decimal.signed]

end QuoteBar

end MarketHistory
