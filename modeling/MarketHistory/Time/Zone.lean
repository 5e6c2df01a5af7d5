import MarketHistory.Time.Instant
import MarketHistory.Time.Zone.Names

/-!
# Time zones

A time zone is a name of the IANA database. What its clock shows at an instant is told by the
database, of which no more is known here than that the clock of UTC shows the instant itself and that
no clock is a day or more away from it (`ZoneClocks`).
-/

namespace MarketHistory

/-- A time zone, by its name. -/
structure TimeZone where
  name : String
  listed : name ∈ TimeZone.names
deriving DecidableEq

namespace TimeZone

/-- The zone of a name. -/
def ofName? (name : String) : Option TimeZone :=
  if h : name ∈ names then some ⟨name, h⟩ else none

theorem ofName?_name (z : TimeZone) : ofName? z.name = some z := dif_pos z.listed

/-- Coordinated universal time. -/
def utc : TimeZone := ⟨"UTC", by simp [names, exchangeNames]⟩

/-- The zone of the exchanges in New York. -/
def newYork : TimeZone := ⟨"America/New_York", by simp [names, exchangeNames]⟩

end TimeZone

/-- The clocks of all time zones. -/
structure ZoneClocks where
  /-- Seconds by which the clock of a zone is ahead of UTC at an instant. -/
  ahead : TimeZone → Instant → Int
  ahead_utc : ∀ t, ahead .utc t = 0
  natAbs_ahead_lt : ∀ zone t, (ahead zone t).natAbs < 86400

namespace ZoneClocks

/-- The date and time of day that the clock of a zone shows at an instant. There is none where that
date lies outside of the calendar, as it may on the first and the last day. -/
def reading? (clocks : ZoneClocks) (zone : TimeZone) (t : Instant) : Option Instant :=
  t.atOffset? (clocks.ahead zone t)

end ZoneClocks

end MarketHistory
