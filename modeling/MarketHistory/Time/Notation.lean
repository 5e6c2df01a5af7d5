import MarketHistory.Text.Scan
import MarketHistory.Time.Instant

/-!
# How dates and times are written and read

Written forms are those of RFC 3339. A year outside 0 to 9999 has a sign; a fraction of a second
has 0, 3, 6 or 9 digits, the fewest that are exact. Reading is more lenient: it skips blanks
between the parts and takes shorter numbers, longer fractions and any offset.
-/

namespace MarketHistory

open Text

/-! ### Writing -/

namespace Date

/-- The year: four digits, with a sign and as many digits as it needs outside 0 to 9999. -/
def yearText (year : Int) : List Char :=
  if 0 ≤ year ∧ year ≤ 9999 then padded 4 year.toNat
  else (if year < 0 then '-' else '+') :: padded 4 year.natAbs

/-- The date as `2024-03-01`. -/
def chars (d : Date) : List Char :=
  yearText d.year ++ ['-'] ++ padded 2 d.month ++ ['-'] ++ padded 2 d.day

/-- The date as `2024-03-01`. -/
def text (d : Date) : String := String.ofList d.chars

end Date

namespace TimeOfDay

/-- A fraction of a second: a point and 3, 6 or 9 digits, nothing for zero. -/
def fractionText (nano : Nat) : List Char :=
  if nano = 0 then []
  else if nano % 1000000 = 0 then '.' :: padded 3 (nano / 1000000)
  else if nano % 1000 = 0 then '.' :: padded 6 (nano / 1000)
  else '.' :: padded 9 nano

/-- Hours, minutes and seconds as `16:00:00`; a leap second is the second 60 of its minute. -/
def clockChars (t : TimeOfDay) : List Char :=
  padded 2 (t.second / 3600) ++ [':'] ++ padded 2 (t.second / 60 % 60) ++ [':'] ++
    padded 2 (t.second % 60 + t.nano / 1000000000)

/-- The reading as `16:00:00` with the fraction that it has. -/
def chars (t : TimeOfDay) : List Char :=
  t.clockChars ++ fractionText (t.nano % 1000000000)

/-- The reading as `16:00:00` with the fraction that it has. -/
def text (t : TimeOfDay) : String := String.ofList t.chars

end TimeOfDay

namespace Instant

/-- The instant as `2024-03-01T16:00:00Z`. -/
def text (t : Instant) : String :=
  String.ofList (t.date.chars ++ ['T'] ++ t.time.chars ++ ['Z'])

/-- The instant as `2024-03-01 16:00:00`, without a fraction. -/
def clockText (t : Instant) : String :=
  String.ofList (t.date.chars ++ [' '] ++ t.time.clockChars)

/-- The instant as `2024-03-01 16:00:00 UTC`, with the fraction that it has. -/
def displayText (t : Instant) : String :=
  String.ofList (t.date.chars ++ [' '] ++ t.time.chars ++ [' ', 'U', 'T', 'C'])

end Instant

/-! ### Reading -/

namespace Date

/-- A year: any number of digits after a sign, up to four without one. -/
def scanYear : Scan Int := do
  Scan.blanks
  match ← get with
  | '-' :: rest => set rest; return -((← Scan.longNumber) : Int)
  | '+' :: rest => set rest; return ((← Scan.longNumber) : Int)
  | _           => return ((← Scan.number 4) : Int)

/-- A mark between two numbers and the number after it, each after blanks. -/
def scanNext (mark : Char) : Scan Nat := do
  Scan.blanks
  Scan.char mark
  Scan.blanks
  Scan.number 2

/-- A date of the calendar: year, month and day with dashes between them. -/
def scan : Scan Date := do
  let year ← scanYear
  let month ← scanNext '-'
  let day ← scanNext '-'
  (ofNumbers? year month day : Option Date)

/-- Reads a date such as `2024-03-01`. -/
def ofText? (s : String) : Option Date := scan.whole s

end Date

namespace TimeOfDay

/-- The nanoseconds that the digits after a point denote; digits after the ninth do not count. -/
def scanFraction : Scan Nat := do
  match ← get with
  | '.' :: rest =>
    let (ds, rest) := takeDigits 9 rest
    if ds.isEmpty then failure
    set (rest.dropWhile isDigit)
    return ofDigits ds * Nat.pow 10 (9 - ds.length)
  | _ => return 0

/-- The reading of a clock that shows these numbers, among them the second 60 of any minute. -/
def ofClock? (hour minute second nano : Nat) : Option TimeOfDay :=
  if hour < 24 ∧ minute < 60 ∧ second ≤ 60 then
    let start := hour * 3600 + minute * 60
    if second = 60 then ofNumbers? (start + 59) (1000000000 + nano)
    else ofNumbers? (start + second) nano
  else none

/-- Hours and minutes with a colon between them. -/
def scanHourMinute : Scan (Nat × Nat) := do
  Scan.blanks
  let hour ← Scan.number 2
  let minute ← Date.scanNext ':'
  return (hour, minute)

/-- The seconds after hours and minutes, with the fraction that they have. -/
def scanSecond : Scan (Nat × Nat) := do
  let second ← Date.scanNext ':'
  let nano ← scanFraction
  return (second, nano)

/-- Reads a time of day such as `16:00:00` or `16:00`. -/
def ofText? (s : String) : Option TimeOfDay := do
  let scan : Scan TimeOfDay := do
    let (hour, minute) ← scanHourMinute
    let (second, nano) ← scanSecond <|> pure (0, 0)
    (ofClock? hour minute second nano : Option TimeOfDay)
  scan.whole s

end TimeOfDay

namespace Instant

/-- A signed offset from UTC in seconds: two digits of hours, two of minutes, and any colons and
blanks between them. -/
def scanSignedOffset : Scan Int := do
  let sign ← Scan.one fun c => c == '+' || c == '-' || c == '\u2212'
  let hours ← Scan.twoDigits
  modify fun s => s.dropWhile fun c => c == ':' || isBlank c
  let minutes ← Scan.twoDigits
  if 60 ≤ minutes ∨ 24 ≤ hours then failure
  let seconds : Int := hours * 3600 + minutes * 60
  return if sign == '+' then seconds else -seconds

/-- An offset from UTC in seconds: `Z`, `UTC`, or hours and minutes with a sign. -/
def scanOffset : Scan Int := do
  match ← get with
  | 'Z' :: rest => set rest; return 0
  | 'z' :: rest => set rest; return 0
  | u :: t :: c :: rest =>
    if (u == 'U' || u == 'u') && (t == 'T' || t == 't') && (c == 'C' || c == 'c') then
      set rest
      return 0
    else scanSignedOffset
  | _ => failure

/-- A date, a time of day and an offset. -/
def scan : Scan Instant := do
  let date ← Date.scan
  let _ ← Scan.one fun c => c == 'T' || c == 't' || c == ' '
  let (hour, minute) ← TimeOfDay.scanHourMinute
  let (second, nano) ← TimeOfDay.scanSecond
  Scan.blanks
  let offset ← scanOffset
  let time ← (TimeOfDay.ofClock? hour minute second nano : Option TimeOfDay)
  (atOffset? ⟨date, time⟩ (-offset) : Option Instant)

/-- Reads an instant such as `2024-03-01T16:00:00Z`. -/
def ofText? (s : String) : Option Instant := scan.whole s

end Instant

end MarketHistory
