import MarketHistory.Hours.TradingHours
import MarketHistory.Subscription.Basic
import MarketHistory.Time.Notation

/-!
# Requests

A request for past data, complete enough for an archive to answer it.
-/

namespace MarketHistory

/-- A request for past data. -/
structure Request where
  startTime     : Instant
  endTime       : Instant
  dataType      : DataType
  symbol        : Symbol
  resolution    : Resolution
  hours         : TradingHours
  dataTimeZone  : TimeZone
  /-- The resolution at which gaps are filled, if they are. -/
  fillForward   : Option Resolution
  extendedHours : Bool
  isCustom      : Bool
  normalization : Normalization
  tickType      : TickType
deriving DecidableEq

namespace Request

/-- The same request over another range of time. -/
def withRange (r : Request) (startTime endTime : Instant) : Request :=
  { r with startTime, endTime }

/-- Whether the range of time holds nothing. -/
def isEmptyRange (r : Request) : Bool := r.endTime ≤ r.startTime

/-- The request in messages. -/
def text (r : Request) : String :=
  r.symbol.text ++ " " ++ r.dataType.title ++ " " ++ r.tickType.name ++ " " ++
    r.resolution.name ++ " [" ++ r.startTime.clockText ++ " .. " ++ r.endTime.clockText ++ "]"

end Request

end MarketHistory
