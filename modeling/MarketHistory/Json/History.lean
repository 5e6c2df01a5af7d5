import MarketHistory.Data.Slice
import MarketHistory.Json.Kept
import MarketHistory.Json.Market
import MarketHistory.Request.Basic

/-!
# Requests and observations in JSON

How requests, observations and slices are written in JSON and read from it.
-/

namespace MarketHistory

open Json Record

/-! ### Requests -/

namespace Request

def toJson (r : Request) : Json := .object [
  ("start_time_utc", r.startTime.toJson),
  ("end_time_utc", r.endTime.toJson),
  ("data_type", r.dataType.toJson),
  ("symbol", r.symbol.toJson),
  ("resolution", r.resolution.toJson),
  ("exchange_hours", r.hours.toJson),
  ("data_time_zone", r.dataTimeZone.toJson),
  ("fill_forward_resolution", .ofOption Resolution.toJson r.fillForward),
  ("include_extended_hours", .bool r.extendedHours),
  ("is_custom_data", .bool r.isCustom),
  ("normalization_mode", r.normalization.toJson),
  ("tick_type", r.tickType.toJson)]

/-- A request fills no gaps unless it says at which resolution. -/
def ofJson? (j : Json) : Option Request := do
  let names := ["start_time_utc", "end_time_utc", "data_type", "symbol", "resolution",
    "exchange_hours", "data_time_zone", "fill_forward_resolution", "include_extended_hours",
    "is_custom_data", "normalization_mode", "tick_type"]
  match ← j.fields? 12 names with
  | [startTime, endTime, dataType, symbol, resolution, hours, dataTimeZone, fillForward,
      extendedHours, isCustom, normalization, tickType] =>
    return {
      startTime     := ← required? Instant.ofJson? startTime
      endTime       := ← required? Instant.ofJson? endTime
      dataType      := ← required? DataType.ofJson? dataType
      symbol        := ← required? Symbol.ofJson? symbol
      resolution    := ← required? Resolution.ofJson? resolution
      hours         := ← required? TradingHours.ofJson? hours
      dataTimeZone  := ← required? TimeZone.ofJson? dataTimeZone
      fillForward   := ← optional? Resolution.ofJson? fillForward
      extendedHours := ← required? bool? extendedHours
      isCustom      := ← required? bool? isCustom
      normalization := ← required? Normalization.ofJson? normalization
      tickType      := ← required? TickType.ofJson? tickType }
  | _ => none

end Request

/-! ### Prices -/

namespace Decimal

def toJson (d : Decimal) : Json := .string d.text

/-- The number that a numeral gives by way of a binary number. -/
def ofNumeral? (n : Numeral) : Option Decimal := (Binary64.ofScaled? n).bind ofBinary64?

/-- A number is written as a string; a JSON number is read as well. Whole numbers of 64 bits are
taken as they are, other numbers go by way of binary numbers. -/
def ofJson? : Json → Option Decimal
  | .string s  => ofText? s
  | .integer n =>
    if -9223372036854775808 ≤ n ∧ n < UInt64.size then ofInt? n else ofNumeral? (.ofInt n)
  | .real n    => ofNumeral? n
  | _          => none

end Decimal

namespace Prices

def toJson (p : Prices) : Json := .object [
  ("open", p.opening.toJson),
  ("high", p.high.toJson),
  ("low", p.low.toJson),
  ("close", p.closing.toJson)]

def ofJson? (j : Json) : Option Prices := do
  match ← j.fields? 4 ["open", "high", "low", "close"] with
  | [opening, high, low, closing] =>
    return {
      opening := ← required? Decimal.ofJson? opening
      high    := ← required? Decimal.ofJson? high
      low     := ← required? Decimal.ofJson? low
      closing := ← required? Decimal.ofJson? closing }
  | _ => none

end Prices

/-! ### Observations -/

/-- A member for a value that is there. -/
def optionalMember {α : Type} (name : String) (f : α → Json) : Option α → List (String × Json)
  | some a => [(name, f a)]
  | none   => []

namespace TradeBar

/-- The members of a bar of trades. -/
def members (b : TradeBar) : List (String × Json) := [
  ("symbol", b.symbol.toJson),
  ("time", b.time.toJson),
  ("end_time", b.endTime.toJson),
  ("open", b.prices.opening.toJson),
  ("high", b.prices.high.toJson),
  ("low", b.prices.low.toJson),
  ("close", b.prices.closing.toJson),
  ("volume", b.volume.toJson)]

def toJson (b : TradeBar) : Json := .object b.members

def ofJson? (j : Json) : Option TradeBar := do
  match ← j.fields? 8
      ["symbol", "time", "end_time", "open", "high", "low", "close", "volume"] with
  | [symbol, time, endTime, opening, high, low, closing, volume] =>
    return {
      symbol  := ← required? Symbol.ofJson? symbol
      time    := ← required? Instant.ofJson? time
      endTime := ← required? Instant.ofJson? endTime
      prices  := {
        opening := ← required? Decimal.ofJson? opening
        high    := ← required? Decimal.ofJson? high
        low     := ← required? Decimal.ofJson? low
        closing := ← required? Decimal.ofJson? closing }
      volume  := ← required? Decimal.ofJson? volume }
  | _ => none

end TradeBar

namespace QuoteBar

/-- The members of a bar of quotes; a side that is missing has none. -/
def members (b : QuoteBar) : List (String × Json) := [
  ("symbol", b.symbol.toJson),
  ("time", b.time.toJson),
  ("end_time", b.endTime.toJson)] ++
  optionalMember "bid" Prices.toJson b.bid ++ optionalMember "ask" Prices.toJson b.ask

def ofJson? (j : Json) : Option QuoteBar := do
  match ← j.fields? 5 ["symbol", "time", "end_time", "bid", "ask"] with
  | [symbol, time, endTime, bid, ask] =>
    return {
      symbol  := ← required? Symbol.ofJson? symbol
      time    := ← required? Instant.ofJson? time
      endTime := ← required? Instant.ofJson? endTime
      bid     := ← optional? Prices.ofJson? bid
      ask     := ← optional? Prices.ofJson? ask }
  | _ => none

end QuoteBar

namespace Tick

/-- The members of a tick; a price that is missing has none. -/
def members (t : Tick) : List (String × Json) := [
  ("symbol", t.symbol.toJson),
  ("time", t.time.toJson),
  ("tick_type", t.tickType.toJson),
  ("value", t.value.toJson),
  ("quantity", t.quantity.toJson)] ++
  optionalMember "bid_price" Decimal.toJson t.bidPrice ++
  optionalMember "ask_price" Decimal.toJson t.askPrice

/-- A tick has the quantity zero unless it says otherwise. -/
def ofJson? (j : Json) : Option Tick := do
  match ← j.fields? 7
      ["symbol", "time", "tick_type", "value", "quantity", "bid_price", "ask_price"] with
  | [symbol, time, tickType, value, quantity, bidPrice, askPrice] =>
    return {
      symbol   := ← required? Symbol.ofJson? symbol
      time     := ← required? Instant.ofJson? time
      tickType := ← required? TickType.ofJson? tickType
      value    := ← required? Decimal.ofJson? value
      quantity := ← orDefault? Decimal.ofJson? .zero quantity
      bidPrice := ← optional? Decimal.ofJson? bidPrice
      askPrice := ← optional? Decimal.ofJson? askPrice }
  | _ => none

end Tick

namespace OpenInterest

/-- The members of a number of open contracts. -/
def members (o : OpenInterest) : List (String × Json) := [
  ("symbol", o.symbol.toJson),
  ("time", o.time.toJson),
  ("value", o.value.toJson)]

def ofJson? (j : Json) : Option OpenInterest := do
  match ← j.fields? 3 ["symbol", "time", "value"] with
  | [symbol, time, value] =>
    return {
      symbol := ← required? Symbol.ofJson? symbol
      time   := ← required? Instant.ofJson? time
      value  := ← required? Decimal.ofJson? value }
  | _ => none

end OpenInterest

namespace Observation

/-- An observation is tagged with the name of its data type. -/
def toJson (o : Observation) : Json :=
  let members := match o with
    | tradeBar b     => b.members
    | quoteBar b     => b.members
    | tick t         => t.members
    | openInterest i => i.members
  .object (("type", .string o.dataType.name) :: members)

/-- Reads an observation that nests at most `levels` deep. -/
def ofJsonWithin? (levels : Nat) (j : Json) : Option Observation := do
  let (tag, body) ← j.tagged? levels
  match DataType.ofName? tag with
  | some .tradeBar     => return .tradeBar (← TradeBar.ofJson? body)
  | some .quoteBar     => return .quoteBar (← QuoteBar.ofJson? body)
  | some .tick         => return .tick (← Tick.ofJson? body)
  | some .openInterest => return .openInterest (← OpenInterest.ofJson? body)
  | _                  => none

def ofJson? : Json → Option Observation := ofJsonWithin? nestingLimit

end Observation

namespace Slice

def toJson (s : Slice) : Json := .object [
  ("time", s.time.toJson),
  ("data", .ofList Observation.toJson s.data)]

/-- The observations of a slice nest in two levels of their own. -/
def ofJson? (j : Json) : Option Slice := do
  match ← j.fields? 2 ["time", "data"] with
  | [time, data] =>
    return {
      time := ← required? Instant.ofJson? time
      data := ← required? (list? (Observation.ofJsonWithin? (nestingLimit - 2))) data }
  | _ => none

end Slice

end MarketHistory
