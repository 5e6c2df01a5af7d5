import MarketHistory.Order.Lexicographic

/-!
# Times of day

The reading of a clock, to the nanosecond. A minute may end in a leap second: it is the part of
the minute's last second from nanosecond 10⁹ on, so that it lies between that second and the
minute that follows.
-/

namespace MarketHistory

/-- The reading of a clock. -/
structure TimeOfDay where
  /-- Whole seconds since midnight. -/
  second : Nat
  /-- Nanoseconds into that second; from 10⁹ on, into the leap second after it. -/
  nano : Nat
  second_lt : second < 86400
  nano_lt   : nano < 2000000000
deriving DecidableEq

namespace TimeOfDay

/-- The reading with these numbers, if a clock can show it. -/
def ofNumbers? (second nano : Nat) : Option TimeOfDay :=
  if h : second < 86400 ∧ nano < 2000000000 then some ⟨second, nano, h.1, h.2⟩ else none

/-- The start of the day. -/
def midnight : TimeOfDay := ⟨0, 0, by decide, by decide⟩

/-- Readings are ordered by second, then nanosecond. -/
instance : Ord TimeOfDay := ⟨compareLex (compareOn second) (compareOn nano)⟩

instance : Std.TransOrd TimeOfDay :=
  inferInstanceAs (Std.TransCmp (compareLex (compareOn second) (compareOn nano)))

instance : Std.LawfulEqOrd TimeOfDay where
  eq_of_compare {a b} h := by
    obtain ⟨hs, h⟩ := compareLex_compareOn_eq_iff.1 h
    have hn := compareOn_eq_iff.1 h
    cases a; cases b; simp_all

instance : LT TimeOfDay := ltOfOrd
instance : LE TimeOfDay := leOfOrd

instance (a b : TimeOfDay) : Decidable (a < b) :=
  inferInstanceAs (Decidable (compare a b = .lt))

instance (a b : TimeOfDay) : Decidable (a ≤ b) :=
  inferInstanceAs (Decidable ((compare a b).isLE = true))

/-! ### Moving along the day -/

/-- The reading a number of seconds later, and the number of days that pass on the way. The
nanoseconds stay as they are. -/
def shift (t : TimeOfDay) (seconds : Int) : TimeOfDay × Int :=
  let total := (t.second : Int) + seconds
  (⟨(total % 86400).toNat, t.nano, by omega, t.nano_lt⟩, total / 86400)

/-- The reading `seconds` and `nanos` later, where `nanos` is less than a second and has the sign
of `seconds`, and the number of days that pass on the way. A step that leaves a leap second
counts from the second before it when it goes forward and from the second after it when it goes
back. -/
def advance (t : TimeOfDay) (seconds nanos : Int) : TimeOfDay × Int :=
  let whole := (t.nano : Int) + nanos
  let step (start frac : Int) : TimeOfDay × Int :=
    let total := start + seconds + frac / 1000000000
    (⟨(total % 86400).toNat, (frac % 1000000000).toNat, by omega, by omega⟩, total / 86400)
  if t.nano < 1000000000 then step t.second whole
  else if 0 < seconds ∨ 2000000000 ≤ whole then step t.second (whole - 1000000000)
  else if seconds < 0 then step (t.second + 1) (whole - 1000000000)
  else (⟨t.second, min whole.toNat 1999999999, t.second_lt, by omega⟩, 0)

end TimeOfDay

end MarketHistory
