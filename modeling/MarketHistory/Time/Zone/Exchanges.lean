import MarketHistory.Time.Zone

/-!
# The clocks of some exchanges

The clock of a zone follows from a standard offset and the rules by which it is put forward and back.
Here are the rules for the zones of some exchanges, as they hold from 1995 on.
-/

namespace MarketHistory

/-! ### Clock changes -/

/-- The day of a month on which clocks change. -/
inductive ChangeDay where
  /-- The day with this number. -/
  | day (day : Nat)
  /-- The first Sunday on or after the day with this number. -/
  | sundayFrom (day : Nat)
  /-- The last Sunday of the month. -/
  | lastSunday

/-- A yearly change of the clock. -/
structure ClockChange where
  /-- The first year of the change. -/
  since : Int
  /-- The last year of the change. -/
  upTo  : Int
  month : Nat
  day   : ChangeDay
  /-- The hour of standard time at which the clock changes, negative for the evening before. -/
  hour  : Int
  /-- Whether the clock is an hour ahead of standard time after the change. -/
  summer : Bool

namespace ClockChange

/-- The number of the day on which the change falls in a year, counted from 1970. -/
def dayNumber? (c : ClockChange) (year : Int) : Option Int :=
  if c.since ≤ year ∧ year ≤ c.upTo then
    let sundayFrom (day : Nat) := (Date.ofNumbers? year c.month day).map fun d =>
      d.dayNumber + (6 - (d.dayNumber + 3) % 7)
    match c.day with
    | .day day        => (Date.ofNumbers? year c.month day).map Date.dayNumber
    | .sundayFrom day => sundayFrom day
    | .lastSunday     => sundayFrom (daysInMonth year c.month - 6)
  else none

end ClockChange

/-- How the clocks of a zone run. -/
structure ZoneClock where
  /-- Seconds by which standard time is ahead of UTC. -/
  standard : Int
  changes  : List ClockChange := []

namespace ZoneClock

/-- Seconds since 1970 at which clocks change in a year, and whether they are ahead from then on. -/
def changesIn (z : ZoneClock) (year : Int) : List (Int × Bool) :=
  z.changes.filterMap fun c =>
    (c.dayNumber? year).map fun day => (day * 86400 + c.hour * 3600 - z.standard, c.summer)

/-- The latest of some changes at or before a second. -/
def latest (second : Int) (changes : List (Int × Bool)) : Option (Int × Bool) :=
  let later (found : Option (Int × Bool)) (c : Int × Bool) :=
    if c.1 ≤ second ∧ found.all (·.1 ≤ c.1) then some c else found
  changes.foldl later none

/-- Seconds by which the clock is ahead of UTC at an instant. -/
def offsetAt (z : ZoneClock) (t : Instant) : Int :=
  let year := t.date.year
  let changes := z.changesIn (year - 1) ++ z.changesIn year ++ z.changesIn (year + 1)
  let summer := (latest t.epochSecond changes).any (·.2)
  z.standard + if summer then 3600 else 0

/-! ### Rules of the exchanges' zones -/

/-- Clock changes in the United States. -/
def unitedStates : List ClockChange := [
  ⟨1987, 2006, 4,  .sundayFrom 1, 2, true⟩,
  ⟨1967, 2006, 10, .lastSunday,   1, false⟩,
  ⟨2007, 9999, 3,  .sundayFrom 8, 2, true⟩,
  ⟨2007, 9999, 11, .sundayFrom 1, 1, false⟩]

/-- Clock changes in the United Kingdom. -/
def unitedKingdom : List ClockChange := [
  ⟨1981, 9999, 3,  .lastSunday,    1, true⟩,
  ⟨1990, 1995, 10, .sundayFrom 22, 1, false⟩,
  ⟨1996, 9999, 10, .lastSunday,    1, false⟩]

/-- Clock changes in New South Wales. -/
def newSouthWales : List ClockChange := [
  ⟨1987, 1999, 10, .lastSunday,   2, true⟩,
  ⟨1990, 1995, 3,  .sundayFrom 1, 2, false⟩,
  ⟨1996, 2005, 3,  .lastSunday,   2, false⟩,
  ⟨2000, 2000, 8,  .lastSunday,   2, true⟩,
  ⟨2001, 2007, 10, .lastSunday,   2, true⟩,
  ⟨2006, 2006, 4,  .sundayFrom 1, 2, false⟩,
  ⟨2007, 2007, 3,  .lastSunday,   2, false⟩,
  ⟨2008, 9999, 4,  .sundayFrom 1, 2, false⟩,
  ⟨2008, 9999, 10, .sundayFrom 1, 2, true⟩]

/-- Clock changes in the south-east of Brazil, the last of them in 2019. -/
def brazil : List ClockChange := [
  ⟨1993, 1995, 10, .sundayFrom 11, 0,  true⟩,
  ⟨1994, 1995, 2,  .sundayFrom 15, -1, false⟩,
  ⟨1996, 1996, 2,  .day 11,        -1, false⟩,
  ⟨1996, 1996, 10, .day 6,         0,  true⟩,
  ⟨1997, 1997, 2,  .day 16,        -1, false⟩,
  ⟨1997, 1997, 10, .day 6,         0,  true⟩,
  ⟨1998, 1998, 3,  .day 1,         -1, false⟩,
  ⟨1998, 1998, 10, .day 11,        0,  true⟩,
  ⟨1999, 1999, 2,  .day 21,        -1, false⟩,
  ⟨1999, 1999, 10, .day 3,         0,  true⟩,
  ⟨2000, 2000, 2,  .day 27,        -1, false⟩,
  ⟨2000, 2001, 10, .sundayFrom 8,  0,  true⟩,
  ⟨2001, 2006, 2,  .sundayFrom 15, -1, false⟩,
  ⟨2002, 2002, 11, .day 3,         0,  true⟩,
  ⟨2003, 2003, 10, .day 19,        0,  true⟩,
  ⟨2004, 2004, 11, .day 2,         0,  true⟩,
  ⟨2005, 2005, 10, .day 16,        0,  true⟩,
  ⟨2006, 2006, 11, .day 5,         0,  true⟩,
  ⟨2007, 2007, 2,  .day 25,        -1, false⟩,
  ⟨2007, 2007, 10, .sundayFrom 8,  0,  true⟩,
  ⟨2008, 2017, 10, .sundayFrom 15, 0,  true⟩,
  ⟨2008, 2011, 2,  .sundayFrom 15, -1, false⟩,
  ⟨2012, 2012, 2,  .sundayFrom 22, -1, false⟩,
  ⟨2013, 2014, 2,  .sundayFrom 15, -1, false⟩,
  ⟨2015, 2015, 2,  .sundayFrom 22, -1, false⟩,
  ⟨2016, 2019, 2,  .sundayFrom 15, -1, false⟩,
  ⟨2018, 2018, 11, .sundayFrom 1,  0,  true⟩]

/-! ### Clocks -/

/-- How the clock of a zone runs. Only the zones of `TimeZone.exchangeNames` have rules here; any
other clock is taken to show UTC. -/
def of (zone : TimeZone) : ZoneClock :=
  match zone.name with
  | "America/New_York"  => ⟨-5 * 3600, unitedStates⟩
  | "America/Chicago"   => ⟨-6 * 3600, unitedStates⟩
  | "Europe/London"     => ⟨0, unitedKingdom⟩
  | "Asia/Tokyo"        => ⟨9 * 3600, []⟩
  | "Asia/Kolkata"      => ⟨5 * 3600 + 1800, []⟩
  | "Australia/Sydney"  => ⟨10 * 3600, newSouthWales⟩
  | "America/Sao_Paulo" => ⟨-3 * 3600, brazil⟩
  | _                   => ⟨0, []⟩

theorem offsetAt_of_utc (t : Instant) : (of .utc).offsetAt t = 0 := rfl

theorem standard_of (zone : TimeZone) :
    -6 * 3600 ≤ (of zone).standard ∧ (of zone).standard ≤ 10 * 3600 := by
  unfold of
  split <;> decide

theorem natAbs_offsetAt_lt (zone : TimeZone) (t : Instant) :
    ((of zone).offsetAt t).natAbs < 86400 := by
  obtain ⟨hlower, hupper⟩ := standard_of zone
  simp only [offsetAt]
  split <;> omega

end ZoneClock

/-- The clocks of the exchanges. -/
def ZoneClocks.exchanges : ZoneClocks :=
  ⟨fun zone t => (ZoneClock.of zone).offsetAt t, ZoneClock.offsetAt_of_utc,
    ZoneClock.natAbs_offsetAt_lt⟩

end MarketHistory
