import MarketHistory.Hours.TradingHours
import MarketHistory.Instrument.Symbol
import MarketHistory.Order.SortedMap

/-!
# The book of market hours

The trading hours and data time zone of every instrument: an entry for the symbol itself, else
one for its market and security type, else the default.
-/

namespace MarketHistory

/-- The hours of an instrument and the zone in which its data are kept. -/
structure MarketHours where
  dataTimeZone : TimeZone
  hours        : TradingHours
deriving DecidableEq

/-- A market and a class of instruments traded there. -/
structure MarketSegment where
  market       : String
  securityType : SecurityType
deriving DecidableEq

namespace MarketSegment

instance : Ord MarketSegment := ⟨compareLex (compareOn market) (compareOn securityType)⟩

instance : Std.TransOrd MarketSegment :=
  inferInstanceAs (Std.TransCmp (compareLex (compareOn market) (compareOn securityType)))

instance : Std.LawfulEqOrd MarketSegment where
  eq_of_compare {a b} h := by
    obtain ⟨hm, h⟩ := compareLex_compareOn_eq_iff.1 h
    have hs := compareOn_eq_iff.1 h
    cases a; cases b; simp_all

end MarketSegment

/-- The market hours of all instruments. -/
structure HoursBook where
  default   : MarketHours
  byMarket  : SortedMap MarketSegment MarketHours
  bySymbol  : SortedMap Symbol MarketHours

namespace HoursBook

/-- A book with the same entry for every instrument. -/
def of (entry : MarketHours) : HoursBook := ⟨entry, .empty, .empty⟩

/-- A book of exchanges that never close, in universal time. -/
def alwaysOpen : HoursBook := of ⟨.utc, .alwaysOpen .utc⟩

/-- The book with an entry for a market, whose name is taken in lower case, and security type. -/
def withMarket (b : HoursBook) (market : String) (securityType : SecurityType)
    (entry : MarketHours) : HoursBook :=
  { b with byMarket := b.byMarket.insert ⟨Text.lower market, securityType⟩ entry }

/-- The book with an entry for a symbol. -/
def withSymbol (b : HoursBook) (symbol : Symbol) (entry : MarketHours) : HoursBook :=
  { b with bySymbol := b.bySymbol.insert symbol entry }

/-- The entry of a symbol. -/
def entry (b : HoursBook) (symbol : Symbol) : MarketHours :=
  ((b.bySymbol.get? symbol).or (b.byMarket.get? ⟨symbol.market, symbol.securityType⟩)).getD
    b.default

end HoursBook

end MarketHistory
