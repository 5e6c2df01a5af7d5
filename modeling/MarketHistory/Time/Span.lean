import MarketHistory.Text.Digits

/-!
# Spans of time

A signed length of time to the nanosecond, and its text in the style of ISO 8601.
-/

namespace MarketHistory

/-- A length of time in nanoseconds, negative for one that goes back. It is at most as long as the
milliseconds that a signed number of 64 bits counts. -/
structure Span where
  total : Int
  total_ge : -9223372036854775807000000 ≤ total
  total_le : total ≤ 9223372036854775807000000
deriving DecidableEq

namespace Span

open Text

/-- The span of this many nanoseconds, if it is not too long. -/
def ofNanos? (nanos : Int) : Option Span :=
  if h : -9223372036854775807000000 ≤ nanos ∧ nanos ≤ 9223372036854775807000000 then
    some ⟨nanos, h.1, h.2⟩
  else none

/-- The span of this many milliseconds, if it is not too long. -/
def ofMillis? (millis : Int) : Option Span := ofNanos? (1000000 * millis)

/-- The span of this many seconds, if it is not too long. -/
def ofSeconds? (seconds : Int) : Option Span := ofNanos? (1000000000 * seconds)

/-- The span of the same length in the other direction. -/
def neg (s : Span) : Span :=
  ⟨-s.total, by have := s.total_le; omega, by have := s.total_ge; omega⟩

/-- The whole milliseconds of a span, counted toward zero. -/
def millis (s : Span) : Int := s.total.tdiv 1000000

/-- The whole seconds of a span, counted toward zero. -/
def seconds (s : Span) : Int := s.total.tdiv 1000000000

/-- What a span has beyond its whole seconds, in nanoseconds with the sign of the span. -/
def nanos (s : Span) : Int := s.total.tmod 1000000000

/-- A fraction of a second in nanoseconds: a point and the digits up to the last that is not
zero. -/
def fractionText (nanos : Nat) : List Char :=
  if nanos = 0 then []
  else '.' :: ((padded 9 nanos).reverse.dropWhile (· == '0')).reverse

/-- The text of a span: `P0D`, or a sign, `PT` and the seconds. -/
def text (s : Span) : String :=
  if s.total = 0 then "P0D"
  else
    let sign := if s.total < 0 then ['-'] else []
    let size := s.total.natAbs
    String.ofList
      (sign ++ ['P', 'T'] ++ digits (size / 1000000000) ++ fractionText (size % 1000000000) ++ ['S'])

end Span

end MarketHistory
