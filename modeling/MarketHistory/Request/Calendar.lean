import MarketHistory.Trace.Traced

/-!
# Exchange calendars

A calendar tells since when a number of bars has passed.
-/

namespace MarketHistory

/-- An answer to every question since when a number of bars has passed. -/
abbrev Calendar := BarCountQuery → Instant

/-- The calendar of a market that never closes: the length of the bars before the end, or the
first instant if that is not far enough back. -/
def Calendar.linear : Calendar := fun q =>
  ((Span.ofSeconds? (q.periods * q.resolution.barSeconds)).bind q.endTime.sub?).getD .first

end MarketHistory
