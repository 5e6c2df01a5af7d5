import MarketHistory.Time.Date
import MarketHistory.Time.TimeOfDay
import MarketHistory.Time.Span

/-!
# Instants

A point in time, to the nanosecond, by its date and time of day in UTC: the order, moving by a
span or a clock's offset, and the seconds since 1970.
-/

namespace MarketHistory

/-- A point in time, by its date and time of day in UTC. -/
structure Instant where
  date : Date
  time : TimeOfDay
deriving DecidableEq

namespace Instant

/-- The first instant. -/
def first : Instant := ⟨.first, .midnight⟩

/-! ### Order -/

/-- Instants are ordered by date, then time of day. -/
instance : Ord Instant := ⟨compareLex (compareOn date) (compareOn time)⟩

instance : Std.TransOrd Instant :=
  inferInstanceAs (Std.TransCmp (compareLex (compareOn date) (compareOn time)))

instance : Std.LawfulEqOrd Instant where
  eq_of_compare {a b} h := by
    obtain ⟨hd, h⟩ := compareLex_compareOn_eq_iff.1 h
    have ht := compareOn_eq_iff.1 h
    cases a; cases b; simp_all

instance : LT Instant := ltOfOrd
instance : LE Instant := leOfOrd

instance (a b : Instant) : Decidable (a < b) :=
  inferInstanceAs (Decidable (compare a b = .lt))

instance (a b : Instant) : Decidable (a ≤ b) :=
  inferInstanceAs (Decidable ((compare a b).isLE = true))

/-- The earlier of two instants. -/
instance : Min Instant := minOfLe

instance : Std.LawfulOrderOrd Instant where
  isLE_compare _ _ := Iff.rfl
  isGE_compare a b := by
    show (compare a b).isGE ↔ (compare b a).isLE
    rw [Std.OrientedOrd.eq_swap (a := b)]
    simp

instance : Std.IsLinearOrder Instant := .of_ord

instance : Std.LawfulOrderLT Instant := .of_ord _ fun _ _ => Iff.rfl

/-! ### Moving in time -/

/-- The instant a span later, if it is not beyond the first or last one. -/
def add? (t : Instant) (span : Span) : Option Instant :=
  let (time, days) := t.time.advance span.seconds span.nanos
  (t.date.addDays? days).map fun date => ⟨date, time⟩

/-- The instant a span earlier, if it is not beyond the first or last one. -/
def sub? (t : Instant) (span : Span) : Option Instant := t.add? span.neg

/-- The date and time of day that a clock shows which is ahead of UTC by some seconds. -/
def atOffset? (t : Instant) (seconds : Int) : Option Instant :=
  let (time, days) := t.time.shift seconds
  (t.date.addDays? days).map fun date => ⟨date, time⟩

/-- The whole seconds from the start of 1970. -/
def epochSecond (t : Instant) : Int := t.date.dayNumber * 86400 + t.time.second

end Instant

end MarketHistory
