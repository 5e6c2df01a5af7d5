import MarketHistory.Data.Resolution

/-!
# Kinds of data

What an observation is about (its tick type) and the form in which it comes (its data type).
-/

namespace MarketHistory

/-- What an observation is about. -/
inductive TickType where
  | trade | quote | openInterest
deriving DecidableEq

namespace TickType

/-- All tick types. -/
def all : List TickType := [trade, quote, openInterest]

/-- The name of a tick type. -/
def name : TickType → String
  | trade        => "trade"
  | quote        => "quote"
  | openInterest => "open_interest"

/-- The tick type with this name. -/
def ofName? (s : String) : Option TickType := all.find? (·.name == s)

theorem ofName?_name (t : TickType) : ofName? t.name = some t := by
  cases t <;> decide

end TickType

/-- The form in which data come. `base` stands for any form. -/
inductive DataType where
  | base | tradeBar | quoteBar | tick | openInterest
deriving DecidableEq

namespace DataType

/-- All data types. -/
def all : List DataType := [base, tradeBar, quoteBar, tick, openInterest]

/-- The name of a data type. -/
def name : DataType → String
  | base         => "base"
  | tradeBar     => "trade_bar"
  | quoteBar     => "quote_bar"
  | tick         => "tick"
  | openInterest => "open_interest"

/-- The data type with this name. -/
def ofName? (s : String) : Option DataType := all.find? (·.name == s)

theorem ofName?_name (t : DataType) : ofName? t.name = some t := by
  cases t <;> decide

/-- The name of a data type in messages. -/
def title : DataType → String
  | base         => "BaseData"
  | tradeBar     => "TradeBar"
  | quoteBar     => "QuoteBar"
  | tick         => "Tick"
  | openInterest => "OpenInterest"

/-- Whether a request for data of type `requested` takes data of type `t`. -/
def accepts (requested t : DataType) : Bool := requested = base || requested = t

/-- The form in which data of a tick type come at tick resolution or, if not `ticks`, as bars. -/
def ofTickType (t : TickType) (ticks : Bool) : DataType :=
  match t, ticks with
  | .openInterest, _ => openInterest
  | _, true          => tick
  | .trade, false    => tradeBar
  | .quote, false    => quoteBar

end DataType

end MarketHistory
