import MarketHistory.Json.Market
import MarketHistory.Settings.Basic

/-!
# Settings in JSON

How settings are written in JSON and read from it. What is missing has its usual value, but for
the parts of a look-back budget and of the logging settings.
-/

namespace MarketHistory

open Json Record

/-- A number of bars. -/
def countJson (n : Nat) : Json := .integer n

namespace UniverseSettings

def toJson (u : UniverseSettings) : Json := .object [
  ("resolution", u.resolution.toJson),
  ("fill_forward", .bool u.fillForward),
  ("extended_market_hours", .bool u.extendedHours),
  ("normalization_mode", u.normalization.toJson)]

def ofJson? (j : Json) : Option UniverseSettings := do
  let names := ["resolution", "fill_forward", "extended_market_hours", "normalization_mode"]
  match ← j.fields? 0 names with
  | [resolution, fillForward, extendedHours, normalization] =>
    return {
      resolution    := ← orDefault? Resolution.ofJson? usual.resolution resolution
      fillForward   := ← orDefault? bool? usual.fillForward fillForward
      extendedHours := ← orDefault? bool? usual.extendedHours extendedHours
      normalization := ← orDefault? Normalization.ofJson? usual.normalization normalization }
  | _ => none

end UniverseSettings

namespace LookbackBudget

def toJson (b : LookbackBudget) : Json := .object [
  ("resolution", b.resolution.toJson),
  ("periods", countJson b.periods)]

def ofJson? (j : Json) : Option LookbackBudget := do
  match ← j.fields? 2 ["resolution", "periods"] with
  | [resolution, periods] =>
    return {
      resolution := ← required? Resolution.ofJson? resolution
      periods    := ← required? count? periods }
  | _ => none

end LookbackBudget

namespace Lookback

def toJson (l : Lookback) : Json := .object [
  ("initial_periods", countJson l.initialPeriods),
  ("minimum_resolution", l.minimumResolution.toJson),
  ("escalation", .ofList LookbackBudget.toJson l.escalation),
  ("default_escalation_periods", countJson l.defaultEscalation)]

def ofJson? (j : Json) : Option Lookback := do
  let names := ["initial_periods", "minimum_resolution", "escalation",
    "default_escalation_periods"]
  match ← j.fields? 0 names with
  | [initialPeriods, minimumResolution, escalation, defaultEscalation] =>
    return {
      initialPeriods    := ← orDefault? count? usual.initialPeriods initialPeriods
      minimumResolution := ←
        orDefault? Resolution.ofJson? usual.minimumResolution minimumResolution
      escalation        := ← orDefault? (list? LookbackBudget.ofJson?) usual.escalation escalation
      defaultEscalation := ← orDefault? count? usual.defaultEscalation defaultEscalation }
  | _ => none

end Lookback

namespace LoggingSettings

def toJson (l : LoggingSettings) : Json := .object [
  ("level", .string l.level),
  ("format", .string l.format)]

def ofJson? (j : Json) : Option LoggingSettings := do
  match ← j.fields? 2 ["level", "format"] with
  | [level, format] =>
    return {
      level  := ← required? string? level
      format := ← required? string? format }
  | _ => none

end LoggingSettings

namespace Settings

def toJson (s : Settings) : Json := .object [
  ("universe", s.defaults.toJson),
  ("last_known_price", s.lookback.toJson),
  ("logging", s.logging.toJson),
  ("time_zone", s.timeZone.toJson)]

def ofJson? (j : Json) : Option Settings := do
  match ← j.fields? 0 ["universe", "last_known_price", "logging", "time_zone"] with
  | [defaults, lookback, logging, timeZone] =>
    return {
      defaults := ← orDefault? UniverseSettings.ofJson? usual.defaults defaults
      lookback := ← orDefault? Lookback.ofJson? usual.lookback lookback
      logging  := ← orDefault? LoggingSettings.ofJson? usual.logging logging
      timeZone := ← orDefault? TimeZone.ofJson? usual.timeZone timeZone }
  | _ => none

end Settings

end MarketHistory
