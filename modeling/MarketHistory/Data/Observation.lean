import MarketHistory.Data.Kind
import MarketHistory.Instrument.Symbol
import MarketHistory.Number.Midpoint
import MarketHistory.Time.Instant

/-!
# Observations

What is known about an instrument at some time: a bar of trades or quotes, a tick, or the open
interest.
-/

namespace MarketHistory

/-- The first, highest, lowest and last price of a bar. -/
structure Prices where
  opening : Decimal
  high    : Decimal
  low     : Decimal
  closing : Decimal
deriving DecidableEq

/-- The prices of a bar in which nothing moved. -/
def Prices.flat (price : Decimal) : Prices := ⟨price, price, price, price⟩

/-- A bar of trades. -/
structure TradeBar where
  symbol  : Symbol
  time    : Instant
  endTime : Instant
  prices  : Prices
  volume  : Decimal
deriving DecidableEq

/-- A bar of quotes; a side without quotes is missing. -/
structure QuoteBar where
  symbol  : Symbol
  time    : Instant
  endTime : Instant
  bid     : Option Prices
  ask     : Option Prices
deriving DecidableEq

/-- A single trade or quote. -/
structure Tick where
  symbol   : Symbol
  time     : Instant
  tickType : TickType
  /-- The price; of a quote, the price half way between the sides. -/
  value    : Decimal
  quantity : Decimal
  bidPrice : Option Decimal
  askPrice : Option Decimal
deriving DecidableEq

/-- The number of open contracts. -/
structure OpenInterest where
  symbol : Symbol
  time   : Instant
  value  : Decimal
deriving DecidableEq

/-- An observation. -/
inductive Observation where
  | tradeBar (bar : TradeBar)
  | quoteBar (bar : QuoteBar)
  | tick (tick : Tick)
  | openInterest (interest : OpenInterest)
deriving DecidableEq

/-- Why a calculation has no result. -/
inductive ArithmeticError where
  | overflow
deriving DecidableEq

/-- The closing price of a quote bar: half way between the sides, or that of the only side. -/
def QuoteBar.close (b : QuoteBar) : Except ArithmeticError (Option Decimal) :=
  match b.bid, b.ask with
  | some bid, some ask =>
    match bid.closing.midpoint? ask.closing with
    | some price => .ok (some price)
    | none       => .error .overflow
  | some bid, none     => .ok (some bid.closing)
  | none, some ask     => .ok (some ask.closing)
  | none, none         => .ok none

namespace Observation

/-- The instrument observed. -/
def symbol : Observation → Symbol
  | tradeBar b     => b.symbol
  | quoteBar b     => b.symbol
  | tick t         => t.symbol
  | openInterest o => o.symbol

/-- When the observation begins. -/
def time : Observation → Instant
  | tradeBar b     => b.time
  | quoteBar b     => b.time
  | tick t         => t.time
  | openInterest o => o.time

/-- When the observation is complete; ticks and open interest are at once. -/
def endTime : Observation → Instant
  | tradeBar b     => b.endTime
  | quoteBar b     => b.endTime
  | tick t         => t.time
  | openInterest o => o.time

/-- The form of the observation. -/
def dataType : Observation → DataType
  | tradeBar _     => .tradeBar
  | quoteBar _     => .quoteBar
  | tick _         => .tick
  | openInterest _ => .openInterest

/-- What the observation is about. -/
def tickType : Observation → TickType
  | tradeBar _     => .trade
  | quoteBar _     => .quote
  | tick t         => t.tickType
  | openInterest _ => .openInterest

/-- The price or number that stands for the observation. -/
def price : Observation → Except ArithmeticError (Option Decimal)
  | tradeBar b     => .ok (some b.prices.closing)
  | quoteBar b     => b.close
  | tick t         => .ok (some t.value)
  | openInterest o => .ok (some o.value)

/-- The bar of trades that the observation is, if it is one. -/
def tradeBar? : Observation → Option TradeBar
  | tradeBar b => some b
  | _          => none

end Observation

end MarketHistory
