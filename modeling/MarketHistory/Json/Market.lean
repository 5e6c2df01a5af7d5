import MarketHistory.Hours.Book
import MarketHistory.Json.Fields
import MarketHistory.Subscription.Basic
import MarketHistory.Time.Notation

/-!
# Instruments and hours in JSON

How names, times, symbols, trading hours and subscriptions are written in JSON and read from it.
-/

namespace MarketHistory

open Json Record

/-! ### Names and times -/

namespace Resolution
def toJson (r : Resolution) : Json := .string r.name
def ofJson? : Json → Option Resolution := named? ofName?
end Resolution

namespace SecurityType
def toJson (t : SecurityType) : Json := .string t.name
def ofJson? : Json → Option SecurityType := named? ofName?
end SecurityType

namespace TickType
def toJson (t : TickType) : Json := .string t.name
def ofJson? : Json → Option TickType := named? ofName?
end TickType

namespace DataType
def toJson (t : DataType) : Json := .string t.name
def ofJson? : Json → Option DataType := named? ofName?
end DataType

namespace Normalization
def toJson (n : Normalization) : Json := .string n.name
def ofJson? : Json → Option Normalization := named? ofName?
end Normalization

namespace TimeZone
def toJson (z : TimeZone) : Json := .string z.name
def ofJson? (j : Json) : Option TimeZone := j.string?.bind ofName?
end TimeZone

namespace Date
def toJson (d : Date) : Json := .string d.text
def ofJson? (j : Json) : Option Date := j.string?.bind ofText?
end Date

namespace TimeOfDay
def toJson (t : TimeOfDay) : Json := .string t.text
def ofJson? (j : Json) : Option TimeOfDay := j.string?.bind ofText?
end TimeOfDay

namespace Instant
def toJson (t : Instant) : Json := .string t.text
def ofJson? (j : Json) : Option Instant := j.string?.bind ofText?
end Instant

/-! ### Symbols -/

namespace Symbol

def toJson (s : Symbol) : Json := .object [
  ("ticker", .string s.ticker),
  ("security_type", s.securityType.toJson),
  ("market", .string s.market),
  ("canonical", .bool s.canonical)]

/-- A symbol is not canonical unless it says so. -/
def ofJson? (j : Json) : Option Symbol := do
  match ← j.fields? 3 ["ticker", "security_type", "market", "canonical"] with
  | [ticker, securityType, market, canonical] =>
    return {
      ticker       := ← required? string? ticker
      securityType := ← required? SecurityType.ofJson? securityType
      market       := ← required? string? market
      canonical    := ← orDefault? bool? false canonical }
  | _ => none

end Symbol

/-! ### Trading hours -/

namespace TradingHours

def toJson (h : TradingHours) : Json := .object [
  ("time_zone", h.timeZone.toJson),
  ("market_open", h.opens.toJson),
  ("market_close", h.closes.toJson),
  ("closed_on_weekends", .bool h.closedOnWeekends),
  ("holidays", .ofList Date.toJson h.holidays)]

/-- Trading hours have no holidays unless they name some. -/
def ofJson? (j : Json) : Option TradingHours := do
  let names := ["time_zone", "market_open", "market_close", "closed_on_weekends", "holidays"]
  match ← j.fields? 4 names with
  | [timeZone, opens, closes, closedOnWeekends, holidays] =>
    return {
      timeZone         := ← required? TimeZone.ofJson? timeZone
      opens            := ← required? TimeOfDay.ofJson? opens
      closes           := ← required? TimeOfDay.ofJson? closes
      closedOnWeekends := ← required? bool? closedOnWeekends
      holidays         := ← orDefault? (list? Date.ofJson?) [] holidays }
  | _ => none

end TradingHours

/-! ### Subscriptions -/

namespace Subscription

def toJson (s : Subscription) : Json := .object [
  ("data_type", s.dataType.toJson),
  ("symbol", s.symbol.toJson),
  ("resolution", s.resolution.toJson),
  ("data_time_zone", s.dataTimeZone.toJson),
  ("exchange_time_zone", s.exchangeTimeZone.toJson),
  ("fill_forward", .bool s.fillForward),
  ("extended_hours", .bool s.extendedHours),
  ("is_custom_data", .bool s.isCustom),
  ("is_internal_feed", .bool s.isInternal),
  ("tick_type", s.tickType.toJson),
  ("normalization_mode", s.normalization.toJson)]

def ofJson? (j : Json) : Option Subscription := do
  let names := ["data_type", "symbol", "resolution", "data_time_zone", "exchange_time_zone",
    "fill_forward", "extended_hours", "is_custom_data", "is_internal_feed", "tick_type",
    "normalization_mode"]
  match ← j.fields? 11 names with
  | [dataType, symbol, resolution, dataTimeZone, exchangeTimeZone, fillForward, extendedHours,
      isCustom, isInternal, tickType, normalization] =>
    return {
      dataType         := ← required? DataType.ofJson? dataType
      symbol           := ← required? Symbol.ofJson? symbol
      resolution       := ← required? Resolution.ofJson? resolution
      dataTimeZone     := ← required? TimeZone.ofJson? dataTimeZone
      exchangeTimeZone := ← required? TimeZone.ofJson? exchangeTimeZone
      fillForward      := ← required? bool? fillForward
      extendedHours    := ← required? bool? extendedHours
      isCustom         := ← required? bool? isCustom
      isInternal       := ← required? bool? isInternal
      tickType         := ← required? TickType.ofJson? tickType
      normalization    := ← required? Normalization.ofJson? normalization }
  | _ => none

end Subscription

end MarketHistory
