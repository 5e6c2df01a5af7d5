import MarketHistory.Time.Notation

/-!
# Dates and times in TOML

A date, a time of day or both, the latter also with an offset, is read from its digits and written
in one way: with a `T` between date and time, and without trailing zeros in the fraction of a
second.
-/

namespace MarketHistory.Toml

open Text

/-- Takes a date such as `2024-03-01`. -/
def scanDate : Scan (List Char) := do
  let century ← Scan.twoDigits
  let year := 100 * century + (← Scan.twoDigits)
  Scan.char '-'
  let month ← Scan.twoDigits
  Scan.char '-'
  let day ← Scan.twoDigits
  if 1 ≤ day ∧ day ≤ daysInMonth year month then
    return padded 4 year ++ ['-'] ++ padded 2 month ++ ['-'] ++ padded 2 day
  else failure

/-- A fraction of a second in nanoseconds: a point and the digits up to the last that is not
zero. -/
def nanoText (nano : Nat) : List Char :=
  if nano = 0 then []
  else '.' :: ((padded 9 nano).reverse.dropWhile (· = '0')).reverse

/-- Takes a time of day such as `16:00:00.5`. -/
def scanTime : Scan (List Char) := do
  let hour ← Scan.twoDigits
  Scan.char ':'
  let minute ← Scan.twoDigits
  Scan.char ':'
  let second ← Scan.twoDigits
  let nano ← TimeOfDay.scanFraction
  if hour < 24 ∧ minute < 60 ∧ second ≤ 60 then
    return padded 2 hour ++ [':'] ++ padded 2 minute ++ [':'] ++ padded 2 second ++ nanoText nano
  else failure

/-- Takes an offset, `Z` or hours and minutes with a sign. -/
def scanOffset : Scan (List Char) := do
  match ← Scan.one fun c => c = 'Z' || c = 'z' || c = '+' || c = '-' with
  | 'Z' | 'z' => return ['Z']
  | sign      =>
    let hour ← Scan.twoDigits
    Scan.char ':'
    let minute ← Scan.twoDigits
    if hour < 24 ∧ minute < 60 then
      let sign := if hour = 0 ∧ minute = 0 then '+' else sign
      return sign :: padded 2 hour ++ [':'] ++ padded 2 minute
    else failure

/-- Takes the time that may follow a date, with the offset that may follow it. -/
def scanTimePart : Scan (List Char) := do
  let _ ← Scan.one fun c => c = 'T' || c = 't' || c = ' '
  let time ← scanTime
  return 'T' :: time ++ (← scanOffset <|> pure [])

/-- Takes a date, a time of day or both. -/
def scanMoment : Scan String := do
  let onDate : Scan (List Char) := do
    let date ← scanDate
    return date ++ (← scanTimePart <|> pure [])
  return String.ofList (← onDate <|> scanTime)

end MarketHistory.Toml
