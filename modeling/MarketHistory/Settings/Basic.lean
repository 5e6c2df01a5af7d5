import MarketHistory.Data.Resolution
import MarketHistory.Subscription.Basic

/-!
# Settings

What can be configured: defaults for the whole universe, how far back to look for last known
prices, logging, and the strategy's time zone.
-/

namespace MarketHistory

/-- Defaults for instruments without a subscription. -/
structure UniverseSettings where
  resolution    : Resolution
  fillForward   : Bool
  extendedHours : Bool
  normalization : Normalization
deriving DecidableEq

/-- How many bars of a resolution to look back. -/
structure LookbackBudget where
  resolution : Resolution
  periods    : Nat
deriving DecidableEq

/-- How far back to look for last known prices. -/
structure Lookback where
  /-- How many bars the first look takes. -/
  initialPeriods    : Nat
  /-- The finest resolution at which to look. -/
  minimumResolution : Resolution
  /-- How many bars the second look takes, by resolution; the first entry counts. -/
  escalation        : List LookbackBudget
  /-- How many bars the second look takes at any other resolution. -/
  defaultEscalation : Nat
deriving DecidableEq

/-- Which log records are written, and in which format, as configured. -/
structure LoggingSettings where
  level  : String
  format : String
deriving DecidableEq

/-- The whole configuration. -/
structure Settings where
  /-- The defaults for the whole universe. -/
  defaults  : UniverseSettings
  lookback  : Lookback
  logging   : LoggingSettings
  timeZone  : TimeZone
deriving DecidableEq

/-! ### Defaults -/

/-- The settings of a universe for which nothing is configured. -/
def UniverseSettings.usual : UniverseSettings := ⟨.minute, true, false, .adjusted⟩

/-- The look back for which nothing is configured: about three days of trading. -/
def Lookback.usual : Lookback := ⟨5, .minute, [⟨.daily, 3⟩, ⟨.hour, 24⟩], 1440⟩

/-- Logging for which nothing is configured. -/
def LoggingSettings.usual : LoggingSettings := ⟨"info", "pretty"⟩

/-- The settings when nothing is configured. -/
def Settings.usual : Settings := ⟨.usual, .usual, .usual, .newYork⟩

namespace Lookback

/-- The resolution at which to look: the finest one subscribed to, but not finer than the
minimum. -/
def baseResolution (l : Lookback) (finest : Option Resolution) : Resolution :=
  match finest with
  | some r => r.coarser l.minimumResolution
  | none   => l.minimumResolution

/-- How many bars the second look takes. -/
def escalatedPeriods (l : Lookback) (r : Resolution) : Nat :=
  match l.escalation.find? (·.resolution = r) with
  | some budget => budget.periods
  | none        => l.defaultEscalation

end Lookback

end MarketHistory
