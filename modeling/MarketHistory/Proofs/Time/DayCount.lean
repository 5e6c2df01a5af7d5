import MarketHistory.Time.Instant
import Mathlib.Tactic.Lemma

/-!
# Counting days

The count of days turns the calendar into arithmetic: the date some days later has the number of
the date plus those days (`dayNumber_of_addDays?`). It follows that going back by different numbers
of whole seconds leads to different instants (`seconds_eq_of_sub?`).
-/

namespace MarketHistory

namespace Date

lemma eq_of_ofNumbers? {year : Int} {month day : Nat} {d : Date}
    (h : ofNumbers? year month day = some d) : d.year = year ∧ d.month = month ∧ d.day = day := by
  simp only [ofNumbers?] at h
  split at h
  · cases h
    exact ⟨rfl, rfl, rfl⟩
  · cases h

/-! ### Months and years -/

/-- The number of days of a year. -/
def daysInYear (year : Int) : Nat := if isLeapYear year then 366 else 365

lemma daysBeforeYear_succ (year : Int) :
    daysBeforeYear (year + 1) = daysBeforeYear year + daysInYear year := by
  have hleap : isLeapYear year = true ↔ year % 4 = 0 ∧ (year % 100 ≠ 0 ∨ year % 400 = 0) := by
    simp [isLeapYear]
  simp only [daysBeforeYear, daysInYear]
  by_cases h : isLeapYear year = true
  · have := hleap.mp h
    rw [if_pos h]
    omega
  · have := mt hleap.mpr h
    rw [if_neg h]
    omega

lemma daysBeforeMonth_succ (year : Int) (month : Nat) :
    daysBeforeMonth year (month + 1) = daysBeforeMonth year month + daysInMonth year month :=
  rfl

/-- The twelve months fill the year. -/
lemma daysBeforeMonth_end (year : Int) : daysBeforeMonth year 13 = daysInYear year := by
  simp only [daysBeforeMonth, daysInYear, daysInMonth]
  split <;> rfl

/-- The month and day that lie `n` days after the start of a year are counted as such. -/
lemma daysBeforeMonth_monthAndDay {year : Int} {n months : Nat} (hmonths : months ≤ 12)
    (hn : daysBeforeMonth year (13 - months) + n < daysInYear year) :
    daysBeforeMonth year (monthAndDay year n months).1 + (monthAndDay year n months).2 =
      daysBeforeMonth year (13 - months) + n + 1 := by
  induction months generalizing n with
  | zero =>
    rw [Nat.sub_zero, daysBeforeMonth_end] at hn
    omega
  | succ months ih =>
    have hmonth : 13 - (months + 1) = 12 - months := by omega
    have hnext : daysBeforeMonth year (13 - months) =
        daysBeforeMonth year (12 - months) + daysInMonth year (12 - months) := by
      rw [← daysBeforeMonth_succ]
      congr 1
      omega
    rw [hmonth] at hn ⊢
    simp only [monthAndDay]
    split
    · rfl
    next h =>
      rw [ih (by omega) (by omega)]
      omega

/-! ### Numbers of days -/

/-- The year that is found for a day within a cycle of 400 years holds the day. -/
lemma yearInCycle_bounds (day : Int) (h0 : 0 ≤ day) (h1 : day < 146097) :
    let year := (day - day / 1460 + day / 36524 - day / 146096) / 365
    daysBeforeYear (1 + year) ≤ day ∧ day < daysBeforeYear (1 + year + 1) := by
  intro year
  -- 1460 days are four years but for the leap days, and a century has up to 25 of these
  have hyear : year = 4 * (day / 1460) - 1 ∨ year = 4 * (day / 1460) ∨
      year = 4 * (day / 1460) + 1 ∨ year = 4 * (day / 1460) + 2 ∨ year = 4 * (day / 1460) + 3 := by
    omega
  have hcentury : day / 36524 = 0 ∨ day / 36524 = 1 ∨ day / 36524 = 2 ∨ day / 36524 = 3 ∨
      day / 36524 = 4 := by
    omega
  simp only [daysBeforeYear]
  constructor
  · rcases hyear with h | h | h | h | h <;> omega
  · rcases hcentury with hc | hc | hc | hc | hc <;>
      rcases hyear with h | h | h | h | h <;> omega

/-- The calendar repeats itself every 400 years. -/
lemma daysBeforeYear_add_cycles (year cycles : Int) :
    daysBeforeYear (year + 400 * cycles) = daysBeforeYear year + 146097 * cycles := by
  simp only [daysBeforeYear]
  omega

/-- The date that is found for a number of days has that number. -/
lemma dayNumber_of_ofDayNumber? {n : Int} {d : Date} (h : ofDayNumber? n = some d) :
    d.dayNumber = n := by
  unfold ofDayNumber? at h
  extract_lets days cycle inCycle year at h
  -- the day lies within the year that is found
  have hstart : daysBeforeYear year ≤ days ∧ days < daysBeforeYear (year + 1) := by
    obtain ⟨hlower, hupper⟩ := yearInCycle_bounds inCycle (by omega) (by omega)
    have hdays : days = inCycle + 146097 * cycle := by omega
    have hyear (k : Int) : daysBeforeYear (year + k) = daysBeforeYear (1 +
        (inCycle - inCycle / 1460 + inCycle / 36524 - inCycle / 146096) / 365 + k) +
          146097 * cycle := by
      rw [← daysBeforeYear_add_cycles]
      congr 1
      omega
    have hthis := hyear 0
    have hnext := hyear 1
    rw [Int.add_zero, Int.add_zero] at hthis
    omega
  let rest := (days - daysBeforeYear year).toNat
  have hnumbers : ofNumbers? year (monthAndDay year rest 12).1 (monthAndDay year rest 12).2 =
      some d := h
  have hmonth : daysBeforeMonth year (monthAndDay year rest 12).1 +
      (monthAndDay year rest 12).2 = 0 + rest + 1 := by
    apply daysBeforeMonth_monthAndDay (Nat.le_refl 12)
    have := daysBeforeYear_succ year
    have hjanuary : daysBeforeMonth year (13 - 12) = 0 := rfl
    omega
  obtain ⟨hy, hm, hd⟩ := eq_of_ofNumbers? hnumbers
  rw [dayNumber, hy, hm, hd]
  omega

lemma dayNumber_of_next? {d d' : Date} (h : d.next? = some d') :
    d'.dayNumber = d.dayNumber + 1 := by
  simp only [next?] at h
  split at h
  · obtain ⟨hy, hm, hd⟩ := eq_of_ofNumbers? h
    rw [dayNumber, dayNumber, hy, hm, hd]
    omega
  next hlast =>
    have hday : d.day = daysInMonth d.year d.month := by
      have := d.day_le
      omega
    have hmonth := daysBeforeMonth_succ d.year d.month
    split at h
    · obtain ⟨hy, hm, hd⟩ := eq_of_ofNumbers? h
      rw [dayNumber, dayNumber, hy, hm, hd, hmonth]
      omega
    next hdecember =>
      have htwelve : d.month = 12 := by
        have := d.month_le
        omega
      obtain ⟨hy, hm, hd⟩ := eq_of_ofNumbers? h
      have hyear := daysBeforeYear_succ d.year
      have hend := daysBeforeMonth_end d.year
      have hjanuary : daysBeforeMonth (d.year + 1) 1 = 0 := rfl
      rw [htwelve] at hmonth hday
      rw [← hend, hmonth] at hyear
      rw [dayNumber, dayNumber, hy, hm, hd, htwelve]
      omega

lemma dayNumber_of_previous? {d d' : Date} (h : d.previous? = some d') :
    d'.dayNumber = d.dayNumber - 1 := by
  simp only [previous?] at h
  split at h
  · obtain ⟨hy, hm, hd⟩ := eq_of_ofNumbers? h
    rw [dayNumber, dayNumber, hy, hm, hd]
    omega
  next hfirst =>
    have hday : d.day = 1 := by
      have := d.day_pos
      omega
    split at h
    next hmonth =>
      obtain ⟨hy, hm, hd⟩ := eq_of_ofNumbers? h
      have hbefore := daysBeforeMonth_succ d.year (d.month - 1)
      rw [Nat.sub_add_cancel (by omega)] at hbefore
      rw [dayNumber, dayNumber, hy, hm, hd]
      omega
    next hjanuary =>
      have hone : d.month = 1 := by
        have := d.month_pos
        omega
      obtain ⟨hy, hm, hd⟩ := eq_of_ofNumbers? h
      have hyear := daysBeforeYear_succ (d.year - 1)
      rw [Int.sub_add_cancel] at hyear
      rw [← daysBeforeMonth_end, daysBeforeMonth_succ] at hyear
      have hdecember : daysInMonth (d.year - 1) 12 = 31 := rfl
      have hstart : daysBeforeMonth d.year 1 = 0 := rfl
      rw [dayNumber, dayNumber, hy, hm, hd, hone]
      omega

/-- The date some days later has the number of the date plus those days. -/
theorem dayNumber_of_addDays? {d d' : Date} {days : Int} (h : d.addDays? days = some d') :
    d'.dayNumber = d.dayNumber + days := by
  simp only [addDays?] at h
  split at h
  next hzero =>
    cases h
    omega
  split at h
  next hone => rw [dayNumber_of_next? h, hone]
  split at h
  next hback =>
    rw [dayNumber_of_previous? h, hback]
    omega
  exact dayNumber_of_ofDayNumber? h

end Date

/-! ### Going back by seconds -/

lemma Span.neg_of_ofSeconds? {n : Int} {span : Span} (h : ofSeconds? n = some span) :
    span.neg.seconds = -n ∧ span.neg.nanos = 0 := by
  simp only [ofSeconds?, ofNanos?] at h
  split at h
  · cases h
    have hnanos : -(1000000000 * n) = 1000000000 * -n := by omega
    constructor
    · show (-(1000000000 * n)).tdiv 1000000000 = -n
      rw [hnanos, Int.mul_tdiv_cancel_left _ (by decide)]
    · show (-(1000000000 * n)).tmod 1000000000 = 0
      rw [hnanos, Int.mul_tmod_right]
  · cases h

/-- Going back by seconds lowers the seconds on the clock and in the days before by as many,
unless a leap second is left: that counts as the second after it. -/
lemma TimeOfDay.advance_back (t : TimeOfDay) {n : Int} (hn : 0 ≤ n) :
    (t.advance (-n) 0).1.nano = t.nano ∧
        (t.advance (-n) 0).2 * 86400 + (t.advance (-n) 0).1.second = t.second - n ∨
      (t.advance (-n) 0).1.nano + 1000000000 = t.nano ∧
        (t.advance (-n) 0).2 * 86400 + (t.advance (-n) 0).1.second = t.second + 1 - n := by
  have hlt := t.nano_lt
  simp only [advance]
  split
  · left
    dsimp only
    omega
  split
  · omega
  split
  · right
    dsimp only
    omega
  · left
    dsimp only
    omega

namespace Instant

lemma epochSecond_of_sub? {t u : Instant} {n : Int} {span : Span} (hn : 0 ≤ n)
    (hspan : Span.ofSeconds? n = some span) (h : t.sub? span = some u) :
    u.time.nano = t.time.nano ∧ u.epochSecond = t.epochSecond - n ∨
      u.time.nano + 1000000000 = t.time.nano ∧ u.epochSecond = t.epochSecond + 1 - n := by
  obtain ⟨hseconds, hnanos⟩ := Span.neg_of_ofSeconds? hspan
  simp only [sub?, add?] at h
  rw [hseconds, hnanos] at h
  have hmap : (t.date.addDays? (t.time.advance (-n) 0).2).map
      (fun date => (⟨date, (t.time.advance (-n) 0).1⟩ : Instant)) = some u := h
  obtain ⟨date, hdate, rfl⟩ := Option.map_eq_some_iff.mp hmap
  have hdays := Date.dayNumber_of_addDays? hdate
  dsimp only [epochSecond]
  rw [hdays]
  rcases t.time.advance_back hn with ⟨hnano, hsecond⟩ | ⟨hnano, hsecond⟩
  · exact .inl ⟨hnano, by omega⟩
  · exact .inr ⟨hnano, by omega⟩

/-- Going back by different numbers of seconds leads to different instants. -/
lemma seconds_eq_of_sub? {t u : Instant} {a b : Int} {spanA spanB : Span} (ha : 0 ≤ a)
    (hb : 0 ≤ b) (hspanA : Span.ofSeconds? a = some spanA) (hspanB : Span.ofSeconds? b = some spanB)
    (hA : t.sub? spanA = some u) (hB : t.sub? spanB = some u) : a = b := by
  rcases epochSecond_of_sub? ha hspanA hA with ⟨hnano, h⟩ | ⟨hnano, h⟩ <;>
    rcases epochSecond_of_sub? hb hspanB hB with ⟨hnano', h'⟩ | ⟨hnano', h'⟩ <;>
    omega

end Instant

end MarketHistory
