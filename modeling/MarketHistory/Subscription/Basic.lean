import MarketHistory.Data.Kind
import MarketHistory.Instrument.Symbol
import MarketHistory.Time.Zone

/-!
# Subscriptions

A subscription says which data of an instrument a strategy receives, and how.
-/

namespace MarketHistory

/-- How past prices account for splits and dividends. -/
inductive Normalization where
  | raw | adjusted | splitAdjusted | totalReturn
deriving DecidableEq

namespace Normalization

/-- All ways of normalization. -/
def all : List Normalization := [raw, adjusted, splitAdjusted, totalReturn]

/-- The name of a way of normalization. -/
def name : Normalization → String
  | raw           => "raw"
  | adjusted      => "adjusted"
  | splitAdjusted => "split_adjusted"
  | totalReturn   => "total_return"

/-- The way of normalization with this name. -/
def ofName? (s : String) : Option Normalization := all.find? (·.name == s)

theorem ofName?_name (n : Normalization) : ofName? n.name = some n := by
  cases n <;> decide

end Normalization

/-- An active subscription. -/
structure Subscription where
  dataType         : DataType
  symbol           : Symbol
  resolution       : Resolution
  dataTimeZone     : TimeZone
  exchangeTimeZone : TimeZone
  /-- Whether gaps are filled with the last known bar. -/
  fillForward      : Bool
  /-- Whether data from outside the regular session are included. -/
  extendedHours    : Bool
  isCustom         : Bool
  /-- Whether the feed is kept by the engine and not by the strategy. -/
  isInternal       : Bool
  tickType         : TickType
  normalization    : Normalization
deriving DecidableEq

namespace Subscription

/-- The subscription with the usual options; its data type follows from the tick type and the
resolution. -/
def of (symbol : Symbol) (resolution : Resolution) (tickType : TickType) (zone : TimeZone) :
    Subscription where
  dataType         := .ofTickType tickType resolution.isTick
  symbol           := symbol
  resolution       := resolution
  dataTimeZone     := zone
  exchangeTimeZone := zone
  fillForward      := true
  extendedHours    := false
  isCustom         := false
  isInternal       := false
  tickType         := tickType
  normalization    := .adjusted

/-- The subscription in messages. -/
def text (s : Subscription) : String :=
  s.symbol.text ++ "," ++ s.dataType.title ++ "," ++ s.resolution.name ++ "," ++
    s.tickType.name ++ (if s.isInternal then ",internal" else "")

end Subscription

end MarketHistory
