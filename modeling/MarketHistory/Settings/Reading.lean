import MarketHistory.Record.Fields
import MarketHistory.Settings.Basic
import MarketHistory.Settings.Raw
import MarketHistory.Text.LetterCase

/-!
# Reading settings from raw values

Simple values are converted into each other where a setting needs it, and names are read in any
case. What is missing has its usual value, but for the parts of a look-back budget and of the
logging settings.
-/

namespace MarketHistory

open Record

namespace RawValue

/-- The truth value that a value stands for: a number other than zero stands for true. -/
def bool? : RawValue → Option Bool
  | bool b    => some b
  | integer n => some (n != 0)
  | float x   => some x.isNonzero
  | string s  =>
    match Text.lower s with
    | "1" | "true" | "on" | "yes"  => some true
    | "0" | "false" | "off" | "no" => some false
    | _                            => none
  | _         => none

/-- A number below 2⁶⁴ in digits, with an optional plus sign. -/
def countOfDigits? (s : List Char) : Option Nat :=
  let digits := match s with
    | '+' :: rest => rest
    | _           => s
  (Text.readNat? digits).filter (· < UInt64.size)

/-- The number from 0 to 2⁶⁴ - 1 that a value stands for; a fraction is rounded. -/
def count? : RawValue → Option Nat
  | bool b    => some b.toNat
  | integer n => if 0 ≤ n then some n.toNat else none
  | float x   => some (x.toNatRounded (UInt64.size - 1))
  | string s  =>
    match Text.lower s with
    | "true" | "on" | "yes"  => some 1
    | "false" | "off" | "no" => some 0
    | _                      => countOfDigits? s.toList
  | _         => none

/-- The text that a value stands for. -/
def string? : RawValue → Option String
  | bool b    => some (if b then "true" else "false")
  | integer n => some (toString n)
  | float x   => some x.text
  | string s  => some s
  | _         => none

/-- One of a set of things by its name, in any case; the name may also be the only key of a
table. -/
def named? {α : Type} (ofName? : String → Option α) : RawValue → Option α
  | string s       => ofName? (Text.lower s)
  | table [(s, _)] => ofName? (Text.lower s)
  | _              => none

/-- The items of a list, each read by `read`. -/
def list? {α : Type} (read : RawValue → Option α) : RawValue → Option (List α)
  | array items => items.mapM read
  | _           => none

/-- The values of the fields of a record, which may also be an array with at least the first
`least` of them. -/
def fields? (least : Nat) (names : List String) : RawValue → Option (List (Option RawValue))
  | table entries => fieldsByName? names entries
  | array items   => fieldsByPlace? least names (items.take names.length)
  | _             => none

end RawValue

open RawValue

/-- Reads the settings of a universe. -/
def UniverseSettings.ofRaw? (v : RawValue) : Option UniverseSettings := do
  let names := ["resolution", "fill_forward", "extended_market_hours", "normalization_mode"]
  match ← v.fields? 0 names with
  | [resolution, fillForward, extendedHours, normalization] =>
    return {
      resolution    := ← orDefault? (named? Resolution.ofName?) usual.resolution resolution
      fillForward   := ← orDefault? bool? usual.fillForward fillForward
      extendedHours := ← orDefault? bool? usual.extendedHours extendedHours
      normalization := ←
        orDefault? (named? Normalization.ofName?) usual.normalization normalization }
  | _ => none

/-- Reads a look-back budget. -/
def LookbackBudget.ofRaw? (v : RawValue) : Option LookbackBudget := do
  match ← v.fields? 2 ["resolution", "periods"] with
  | [resolution, periods] =>
    return {
      resolution := ← required? (named? Resolution.ofName?) resolution
      periods    := ← required? count? periods }
  | _ => none

/-- Reads how far back to look for last known prices. -/
def Lookback.ofRaw? (v : RawValue) : Option Lookback := do
  let names := ["initial_periods", "minimum_resolution", "escalation",
    "default_escalation_periods"]
  match ← v.fields? 0 names with
  | [initialPeriods, minimumResolution, escalation, defaultEscalation] =>
    return {
      initialPeriods    := ← orDefault? count? usual.initialPeriods initialPeriods
      minimumResolution := ←
        orDefault? (named? Resolution.ofName?) usual.minimumResolution minimumResolution
      escalation        := ← orDefault? (list? LookbackBudget.ofRaw?) usual.escalation escalation
      defaultEscalation := ← orDefault? count? usual.defaultEscalation defaultEscalation }
  | _ => none

/-- Reads logging settings. -/
def LoggingSettings.ofRaw? (v : RawValue) : Option LoggingSettings := do
  match ← v.fields? 2 ["level", "format"] with
  | [level, format] =>
    return {
      level  := ← required? string? level
      format := ← required? string? format }
  | _ => none

/-- Reads the whole configuration. -/
def Settings.ofRaw? (v : RawValue) : Option Settings := do
  match ← v.fields? 0 ["universe", "last_known_price", "logging", "time_zone"] with
  | [defaults, lookback, logging, timeZone] =>
    return {
      defaults := ← orDefault? UniverseSettings.ofRaw? usual.defaults defaults
      lookback := ← orDefault? Lookback.ofRaw? usual.lookback lookback
      logging  := ← orDefault? LoggingSettings.ofRaw? usual.logging logging
      timeZone := ←
        orDefault? (fun v => v.string?.bind TimeZone.ofName?) usual.timeZone timeZone }
  | _ => none

end MarketHistory
