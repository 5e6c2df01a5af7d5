import MarketHistory.Order.Lexicographic
import MarketHistory.Text.LetterCase

/-!
# Resolutions

How fine data are, from single ticks to daily bars, and the length of a bar.
-/

namespace MarketHistory

/-- How fine data are. -/
inductive Resolution where
  | tick | second | minute | hour | daily
deriving DecidableEq

namespace Resolution

/-- All resolutions, the finest first. -/
def all : List Resolution := [tick, second, minute, hour, daily]

/-! ### Order -/

/-- The place among the resolutions, the finest first. -/
def rank : Resolution → Nat
  | tick   => 0
  | second => 1
  | minute => 2
  | hour   => 3
  | daily  => 4

theorem rank_injective {a b : Resolution} (h : a.rank = b.rank) : a = b := by
  cases a <;> cases b <;> first | rfl | cases h

/-- A finer resolution comes before a coarser one. -/
instance : Ord Resolution := ⟨compareOn rank⟩

instance : Std.TransOrd Resolution := inferInstanceAs (Std.TransCmp (compareOn rank))

instance : Std.LawfulEqOrd Resolution where
  eq_of_compare h := rank_injective (compareOn_eq_iff.1 h)

instance : LT Resolution := ltOfOrd
instance : LE Resolution := leOfOrd

instance (a b : Resolution) : Decidable (a < b) :=
  inferInstanceAs (Decidable (compare a b = .lt))

instance (a b : Resolution) : Decidable (a ≤ b) :=
  inferInstanceAs (Decidable ((compare a b).isLE = true))

/-- The coarser of two resolutions. -/
def coarser (a b : Resolution) : Resolution := if a ≤ b then b else a

/-- The finer of two resolutions. -/
def finer (a b : Resolution) : Resolution := if a ≤ b then a else b

/-! ### Bars -/

/-- The length of a bar in seconds; ticks have none. -/
def barSeconds : Resolution → Nat
  | tick   => 0
  | second => 1
  | minute => 60
  | hour   => 3600
  | daily  => 86400

/-- Whether data come as single ticks. -/
def isTick (r : Resolution) : Bool := r = tick

/-! ### Names -/

/-- The name in lower case. -/
def name : Resolution → String
  | tick   => "tick"
  | second => "second"
  | minute => "minute"
  | hour   => "hour"
  | daily  => "daily"

/-- The name with a capital letter, for messages. -/
def title : Resolution → String
  | tick   => "Tick"
  | second => "Second"
  | minute => "Minute"
  | hour   => "Hour"
  | daily  => "Daily"

/-- The resolution with this name. -/
def ofName? (s : String) : Option Resolution := all.find? (·.name == s)

theorem ofName?_name (r : Resolution) : ofName? r.name = some r := by
  cases r <;> decide

/-- Reads a name or abbreviation in any case. -/
def ofText? (s : String) : Option Resolution :=
  match Text.lower s with
  | "tick"                   => some tick
  | "second" | "1s"          => some second
  | "minute" | "1m"          => some minute
  | "hour" | "1h"            => some hour
  | "daily" | "day" | "1d"   => some daily
  | _                        => none

end Resolution

end MarketHistory
