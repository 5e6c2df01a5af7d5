import MarketHistory.Time.Zone

/-!
# Trading hours

The hours of a session by the clock of the exchange, with the days on which there is none.
-/

namespace MarketHistory

/-- When an exchange is open. -/
structure TradingHours where
  /-- The zone of the clock by which the session opens and closes. -/
  timeZone : TimeZone
  opens    : TimeOfDay
  /-- When the session closes; at or before the opening for a session that runs past midnight. -/
  closes   : TimeOfDay
  closedOnWeekends : Bool
  holidays : List Date
deriving DecidableEq

namespace TradingHours

/-- Hours of a session on the days from Monday to Friday. -/
def regular (timeZone : TimeZone) (opens closes : TimeOfDay) : TradingHours :=
  ⟨timeZone, opens, closes, true, []⟩

/-- The hours of an exchange that never closes. -/
def alwaysOpen (timeZone : TimeZone) : TradingHours :=
  ⟨timeZone, .midnight, .midnight, false, []⟩

/-- The same hours with further holidays. -/
def addHolidays (h : TradingHours) (days : List Date) : TradingHours :=
  { h with holidays := h.holidays ++ days }

/-- Whether the hours leave out no time at all. -/
def isAlwaysOpen (h : TradingHours) : Bool :=
  !h.closedOnWeekends && h.holidays.isEmpty && h.opens = h.closes

/-- Whether there is a session on a day. -/
def isTradingDay (h : TradingHours) (day : Date) : Bool :=
  !(h.closedOnWeekends && day.isWeekend) && day ∉ h.holidays

/-- Whether a time of day lies in the session; the whole day does if the session opens and closes
at the same time. -/
def inSession (h : TradingHours) (time : TimeOfDay) : Bool :=
  if h.opens = h.closes then true
  else if h.opens < h.closes then h.opens ≤ time && time < h.closes
  else h.opens ≤ time || time < h.closes

/-- Whether the exchange is open at an instant: its calendar shows a trading day and its clock a time
within the session. There is no answer where the clock shows no date; asking stops the program. -/
def isOpen? (h : TradingHours) (clocks : ZoneClocks) (t : Instant) : Option Bool :=
  (clocks.reading? h.timeZone t).map fun reading =>
    h.isTradingDay reading.date && h.inSession reading.time

/-- Whether the exchange is open at an instant or cannot be asked. -/
def isOpen (h : TradingHours) (clocks : ZoneClocks) (t : Instant) : Bool :=
  (h.isOpen? clocks t).getD true

end TradingHours

end MarketHistory
