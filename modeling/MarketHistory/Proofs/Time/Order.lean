import MarketHistory.Proofs.Time.DayCount
import Mathlib.Tactic.IntervalCases

/-!
# The order of the calendar

Dates are compared by year, month and day, and instants by date and time of day
(`Instant.lt_iff`, `Instant.le_iff`). No date lies between a date and the one after it
(`Date.compare_next?_eq_lt_iff`), and none after the last (`Date.compare_ne_lt_of_next?`).
-/

namespace MarketHistory

lemma compareLex_compareOn_eq_lt_iff {α β : Type} [Ord β] [Std.LawfulEqOrd β] {f : α → β}
    {cmp : α → α → Ordering} {a b : α} :
    compareLex (compareOn f) cmp a b = .lt ↔
      compare (f a) (f b) = .lt ∨ f a = f b ∧ cmp a b = .lt := by
  rw [compareLex, Ordering.then_eq_lt, compareOn_eq_iff]
  rfl

/-! ### Days that follow one another -/

namespace Date

lemma compare_eq_lt_iff {a b : Date} : compare a b = .lt ↔
    a.year < b.year ∨ a.year = b.year ∧
      (a.month < b.month ∨ a.month = b.month ∧ a.day < b.day) := by
  show compareLex _ _ a b = .lt ↔ _
  rw [compareLex_compareOn_eq_lt_iff, compareLex_compareOn_eq_lt_iff, Int.compare_eq_lt,
    Nat.compare_eq_lt]
  show _ ∨ _ ∧ (_ ∨ _ ∧ compare a.day b.day = .lt) ↔ _
  rw [Nat.compare_eq_lt]

/-- No day lies between a day and the day after. -/
lemma compare_next?_eq_lt_iff {d d' : Date} (h : d.next? = some d') (x : Date) :
    compare x d' = .lt ↔ compare d x ≠ .lt := by
  rw [Ne, compare_eq_lt_iff, compare_eq_lt_iff]
  have hmonth := x.month_pos
  have hmonth' := x.month_le
  have hday := x.day_pos
  have hday' := x.day_le
  simp only [next?] at h
  split at h
  · obtain ⟨hy, hm, hd⟩ := eq_of_ofNumbers? h
    omega
  next hlast =>
    -- a day of the same month is not after its last one
    have hend (hyear : x.year = d.year) (hmonth : x.month = d.month) : x.day ≤ d.day := by
      rw [hyear, hmonth] at hday'
      omega
    have hmonths := d.month_le
    split at h <;>
    · obtain ⟨hy, hm, hd⟩ := eq_of_ofNumbers? h
      omega

lemma compare_self_ne_lt (d : Date) : compare d d ≠ .lt := by
  rw [Std.ReflOrd.compare_self]
  decide

lemma compare_eq_lt_of_next? {d d' : Date} (h : d.next? = some d') : compare d d' = .lt :=
  Decidable.not_not.mp fun hle => d'.compare_self_ne_lt ((compare_next?_eq_lt_iff h d').mpr hle)

lemma daysInMonth_le (year : Int) (month : Nat) : daysInMonth year month ≤ 31 := by
  have hfebruary : daysInMonth year 2 ≤ 31 := by
    simp only [daysInMonth]
    split <;> decide
  by_cases hmonth : month = 2
  · exact hmonth ▸ hfebruary
  · unfold daysInMonth
    split <;> first | decide | exact absurd rfl hmonth

lemma daysInMonth_pos {month : Nat} (year : Int) (hlower : 1 ≤ month) (hupper : month ≤ 12) :
    1 ≤ daysInMonth year month := by
  have hfebruary : 1 ≤ daysInMonth year 2 := by
    simp only [daysInMonth]
    split <;> decide
  interval_cases month
  case «2» => exact hfebruary
  all_goals exact Nat.succ_pos _

/-- No day lies after one that has no day after it. -/
lemma compare_ne_lt_of_next? {d : Date} (h : d.next? = none) (x : Date) : compare d x ≠ .lt := by
  rw [Ne, compare_eq_lt_iff]
  have hyear := d.year_ge
  have hyear' := d.year_le
  have hmonth := d.month_pos
  simp only [next?, ofNumbers?] at h
  split at h
  next hday =>
    rw [dif_pos ⟨hyear, hyear', by omega, hday⟩] at h
    cases h
  next hlast =>
    split at h
    next hdecember =>
      rw [dif_pos ⟨hyear, hyear', Nat.le_refl 1, daysInMonth_pos _ (by omega) hdecember⟩] at h
      cases h
    next hdecember =>
      have hend : ¬d.year < 262142 := by
        intro hlt
        have hjanuary : 1 ≤ daysInMonth (d.year + 1) 1 := Nat.succ_pos 30
        rw [dif_pos ⟨by omega, by omega, Nat.le_refl 1, hjanuary⟩] at h
        cases h
      have hxyear := x.year_le
      have hxmonth := x.month_le
      have hxday := x.day_le
      rintro (hlt | ⟨heq, hlt | ⟨heq', hlt⟩⟩)
      · omega
      · omega
      · rw [← heq, ← heq'] at hxday
        omega

lemma eq_of_numbers {a b : Date} (hyear : a.year = b.year) (hmonth : a.month = b.month)
    (hday : a.day = b.day) : a = b := by
  cases a
  cases b
  cases hyear
  cases hmonth
  cases hday
  rfl

/-- Only the last day has no day after it. -/
lemma eq_last_of_next? {d : Date} (h : d.next? = none) : d = .last := by
  have hlast := compare_ne_lt_of_next? h .last
  have hyear := d.year_le
  have hmonth := d.month_le
  have hday := Nat.le_trans d.day_le (daysInMonth_le d.year d.month)
  rw [Ne, compare_eq_lt_iff] at hlast
  dsimp only [last] at hlast
  refine eq_of_numbers ?_ ?_ ?_
  all_goals dsimp only [last]; omega

/-- Only the first day has no day before it. -/
lemma eq_first_of_previous? {d : Date} (h : d.previous? = none) : d = .first := by
  have hyear := d.year_ge
  have hyear' := d.year_le
  have hmonth := d.month_pos
  have hmonth' := d.month_le
  have hday := d.day_pos
  have hday' := d.day_le
  simp only [previous?, ofNumbers?] at h
  split at h
  next hlater =>
    rw [dif_pos ⟨hyear, hyear', by omega, by omega⟩] at h
    cases h
  next =>
    split at h
    next hlater =>
      have hlength := daysInMonth_pos d.year (by omega) (by omega : d.month - 1 ≤ 12)
      rw [dif_pos ⟨hyear, hyear', hlength, Nat.le_refl _⟩] at h
      cases h
    next =>
      have hstart : ¬-262143 < d.year := by
        intro hlt
        have hdecember : 31 ≤ daysInMonth (d.year - 1) 12 := Nat.le_refl 31
        rw [dif_pos ⟨by omega, by omega, by decide, hdecember⟩] at h
        cases h
      refine eq_of_numbers ?_ ?_ ?_
      all_goals dsimp only [first]; omega

end Date

/-! ### Readings of a clock -/

namespace TimeOfDay

instance : Std.LawfulOrderOrd TimeOfDay where
  isLE_compare _ _ := Iff.rfl
  isGE_compare a b := by
    show (compare a b).isGE ↔ (compare b a).isLE
    rw [Std.OrientedOrd.eq_swap (a := b)]
    simp

instance : Std.IsLinearOrder TimeOfDay := .of_ord

instance : Std.LawfulOrderLT TimeOfDay := .of_ord _ fun _ _ => Iff.rfl

lemma shift_zero (t : TimeOfDay) : t.shift 0 = (t, 0) := by
  have hsecond := t.second_lt
  have hday : ((t.second : Int) + 0) / 86400 = 0 := by omega
  have hrest : (((t.second : Int) + 0) % 86400).toNat = t.second := by omega
  simp only [shift, hday, hrest]

end TimeOfDay

namespace Instant

lemma lt_iff {t u : Instant} :
    t < u ↔ compare t.date u.date = .lt ∨ t.date = u.date ∧ t.time < u.time :=
  compareLex_compareOn_eq_lt_iff

lemma le_iff {t u : Instant} :
    t ≤ u ↔ compare t.date u.date = .lt ∨ t.date = u.date ∧ t.time ≤ u.time := by
  show (compareLex _ _ t u).isLE ↔ _
  rw [compareLex, Ordering.isLE_then_iff_or, compareOn_eq_iff]
  rfl

/-- A clock that is not ahead shows the instant itself. -/
lemma atOffset?_zero (t : Instant) : t.atOffset? 0 = some t := by
  rw [atOffset?, TimeOfDay.shift_zero]
  rfl

/-- Between the first and the last day a clock that is less than a day ahead or behind shows a date:
that day, the one before or the one after. -/
lemma isSome_atOffset? {t : Instant} {seconds : Int} (hseconds : seconds.natAbs < 86400)
    (hfirst : t.date ≠ .first) (hlast : t.date ≠ .last) :
    (t.atOffset? seconds).isSome = true := by
  have hsecond := t.time.second_lt
  have hdays : ((t.time.second : Int) + seconds) / 86400 = 0 ∨
      ((t.time.second : Int) + seconds) / 86400 = 1 ∨
      ((t.time.second : Int) + seconds) / 86400 = -1 := by
    omega
  have hdate : (t.date.addDays? (((t.time.second : Int) + seconds) / 86400)).isSome = true := by
    rw [Option.isSome_iff_ne_none]
    rcases hdays with hdays | hdays | hdays <;> rw [hdays]
    · exact Option.some_ne_none t.date
    · exact fun hnone => hlast (Date.eq_last_of_next? hnone)
    · exact fun hnone => hfirst (Date.eq_first_of_previous? hnone)
  rw [atOffset?, TimeOfDay.shift, Option.isSome_map]
  exact hdate

end Instant

end MarketHistory
