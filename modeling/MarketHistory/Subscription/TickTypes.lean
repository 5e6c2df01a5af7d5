import MarketHistory.Data.Kind
import MarketHistory.Instrument.SecurityType

/-!
# Tick types of a security type

Which kinds of observations a class of instruments has, by priority.
-/

namespace MarketHistory

/-- The tick types of a security type, the most important first. -/
def SecurityType.tickTypes : SecurityType → List TickType
  | index           => [.trade]
  | forex | cfd     => [.quote]
  | equity | crypto => [.trade, .quote]
  | future | option | indexOption | futureOption => [.quote, .trade, .openInterest]

/-- The place of a tick type in a list of priorities; after all of them if it is not there. -/
def TickType.rankIn (priorities : List TickType) (t : TickType) : Nat :=
  priorities.findIdx (· = t)

/-- Whether data of this kind exist: hourly and daily data of shares are trades only. -/
def TickType.existsFor (t : TickType) (securityType : SecurityType) (resolution : Resolution) :
    Bool :=
  !(securityType = .equity && (resolution = .hour || resolution = .daily) && t = .quote)

/-- The forms and tick types of data that exist for a symbol, by priority; a canonical symbol
has none. -/
def DataType.defaults (priorities : List TickType) (securityType : SecurityType)
    (resolution : Resolution) (canonical : Bool) : List (DataType × TickType) :=
  if canonical then []
  else (priorities.filter (·.existsFor securityType resolution)).map fun t =>
    (.ofTickType t resolution.isTick, t)

/-- The finest resolution among subscriptions' resolutions, if there are any. -/
def Resolution.finest? (resolutions : List Resolution) : Option Resolution :=
  resolutions.foldl (fun best r => some ((best.map (·.finer r)).getD r)) none

end MarketHistory
