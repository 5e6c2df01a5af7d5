import MarketHistory.Order.Lexicographic

/-!
# Dates

Days of the proleptic Gregorian calendar, from the year -262143 to the year 262142: the calendar
rules, the order, the day after and before, the count of days and the day of the week.
-/

namespace MarketHistory

/-! ### The calendar -/

/-- Whether a year has a 29th of February. -/
def isLeapYear (year : Int) : Bool :=
  year % 4 == 0 && (year % 100 != 0 || year % 400 == 0)

/-- The number of days of a month; none for a number that names no month. -/
def daysInMonth (year : Int) (month : Nat) : Nat :=
  match month with
  | 1 | 3 | 5 | 7 | 8 | 10 | 12 => 31
  | 4 | 6 | 9 | 11              => 30
  | 2                           => if isLeapYear year then 29 else 28
  | _                           => 0

/-- A day of the calendar. -/
structure Date where
  year  : Int
  month : Nat
  day   : Nat
  year_ge   : -262143 ≤ year
  year_le   : year ≤ 262142
  day_pos   : 1 ≤ day
  day_le    : day ≤ daysInMonth year month
deriving DecidableEq

namespace Date

/-- The date with these numbers, if the calendar has it. -/
def ofNumbers? (year : Int) (month day : Nat) : Option Date :=
  if h : -262143 ≤ year ∧ year ≤ 262142 ∧ 1 ≤ day ∧ day ≤ daysInMonth year month then
    some ⟨year, month, day, h.1, h.2.1, h.2.2.1, h.2.2.2⟩
  else none

theorem ofNumbers?_self (d : Date) : ofNumbers? d.year d.month d.day = some d :=
  dif_pos ⟨d.year_ge, d.year_le, d.day_pos, d.day_le⟩

theorem month_pos (d : Date) : 1 ≤ d.month := by
  have := d.day_pos
  have h := d.day_le
  rcases Nat.eq_zero_or_pos d.month with h0 | h0
  · simp [h0, daysInMonth] at h; omega
  · exact h0

theorem month_le (d : Date) : d.month ≤ 12 := by
  have := d.day_pos
  have h := d.day_le
  rcases Nat.lt_or_ge 12 d.month with h0 | h0
  · unfold daysInMonth at h
    split at h <;> omega
  · exact h0

/-- The first day, 1 January of the year -262143. -/
def first : Date := ⟨-262143, 1, 1, by decide, by decide, by decide, by decide⟩

/-- The last day, 31 December of the year 262142. -/
def last : Date := ⟨262142, 12, 31, by decide, by decide, by decide, by decide⟩

/-! ### Order -/

/-- Dates are ordered by year, then month, then day. -/
instance : Ord Date :=
  ⟨compareLex (compareOn year) (compareLex (compareOn month) (compareOn day))⟩

instance : Std.TransOrd Date :=
  inferInstanceAs (Std.TransCmp
    (compareLex (compareOn year) (compareLex (compareOn month) (compareOn day))))

instance : Std.LawfulEqOrd Date where
  eq_of_compare {a b} h := by
    obtain ⟨hy, h⟩ := compareLex_compareOn_eq_iff.1 h
    obtain ⟨hm, h⟩ := compareLex_compareOn_eq_iff.1 h
    have hd := compareOn_eq_iff.1 h
    cases a; cases b; simp_all

/-! ### Neighbours -/

/-- The day after, unless this is the last day. -/
def next? (d : Date) : Option Date :=
  if d.day < daysInMonth d.year d.month then ofNumbers? d.year d.month (d.day + 1)
  else if d.month < 12 then ofNumbers? d.year (d.month + 1) 1
  else ofNumbers? (d.year + 1) 1 1

/-- The day before, unless this is the first day. -/
def previous? (d : Date) : Option Date :=
  if 1 < d.day then ofNumbers? d.year d.month (d.day - 1)
  else if 1 < d.month then
    ofNumbers? d.year (d.month - 1) (daysInMonth d.year (d.month - 1))
  else ofNumbers? (d.year - 1) 12 31

/-! ### Counting days -/

/-- The days of a year before the first of a month. -/
def daysBeforeMonth (year : Int) : (month : Nat) → Nat
  | 0         => 0
  | month + 1 => daysBeforeMonth year month + daysInMonth year month

/-- The days from 1 January of the year 1 to 1 January of a year. -/
def daysBeforeYear (year : Int) : Int :=
  let y := year - 1
  365 * y + y / 4 - y / 100 + y / 400

/-- The number of days since 1 January 1970. -/
def dayNumber (d : Date) : Int :=
  daysBeforeYear d.year + daysBeforeMonth d.year d.month + d.day - 719163

/-- The month and day that lie `n` days after the start of a year, looking from `month` on. -/
def monthAndDay (year : Int) (n : Nat) : (months : Nat) → Nat × Nat
  | 0          => (12, n + 1)
  | months + 1 =>
    let month := 12 - months
    if n < daysInMonth year month then (month, n + 1)
    else monthAndDay year (n - daysInMonth year month) months

/-- The date with a given number of days since 1 January 1970. -/
def ofDayNumber? (n : Int) : Option Date :=
  let days := n + 719162
  let cycle := days / 146097
  let inCycle := days % 146097
  let year := 1 + 400 * cycle +
    (inCycle - inCycle / 1460 + inCycle / 36524 - inCycle / 146096) / 365
  let (month, day) := monthAndDay year (days - daysBeforeYear year).toNat 12
  ofNumbers? year month day

/-- The date a number of days later. -/
def addDays? (d : Date) (days : Int) : Option Date :=
  if days = 0 then some d
  else if days = 1 then d.next?
  else if days = -1 then d.previous?
  else ofDayNumber? (d.dayNumber + days)

/-! ### The week -/

/-- Whether the date is a Saturday or a Sunday. -/
def isWeekend (d : Date) : Bool :=
  -- 1 January 1970 was a Thursday, the day 3 of a week that begins on Monday
  5 ≤ (d.dayNumber + 3) % 7

end Date

end MarketHistory
