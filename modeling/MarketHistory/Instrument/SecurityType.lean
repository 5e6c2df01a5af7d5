import MarketHistory.Order.Lexicographic
import MarketHistory.Text.LetterCase

/-!
# Security types

The classes of instruments.
-/

namespace MarketHistory

/-- A class of instruments. -/
inductive SecurityType where
  | equity | forex | cfd | crypto | index | future | option | indexOption | futureOption
deriving DecidableEq

namespace SecurityType

/-- All security types, in their order. -/
def all : List SecurityType :=
  [equity, forex, cfd, crypto, index, future, option, indexOption, futureOption]

/-- The place in the order of security types. -/
def rank : SecurityType → Nat
  | equity       => 0
  | forex        => 1
  | cfd          => 2
  | crypto       => 3
  | index        => 4
  | future       => 5
  | option       => 6
  | indexOption  => 7
  | futureOption => 8

theorem rank_injective {a b : SecurityType} (h : a.rank = b.rank) : a = b := by
  cases a <;> cases b <;> first | rfl | cases h

instance : Ord SecurityType := ⟨compareOn rank⟩

instance : Std.TransOrd SecurityType := inferInstanceAs (Std.TransCmp (compareOn rank))

instance : Std.LawfulEqOrd SecurityType where
  eq_of_compare h := rank_injective (compareOn_eq_iff.1 h)

/-- Whether securities of the type have quotes but no trades. -/
def isQuoteOnly (t : SecurityType) : Bool := t = forex || t = cfd

/-- The name of a security type. -/
def name : SecurityType → String
  | equity       => "equity"
  | forex        => "forex"
  | cfd          => "cfd"
  | crypto       => "crypto"
  | index        => "index"
  | future       => "future"
  | option       => "option"
  | indexOption  => "index_option"
  | futureOption => "future_option"

/-- The security type with this name. -/
def ofName? (s : String) : Option SecurityType := all.find? (·.name == s)

theorem ofName?_name (t : SecurityType) : ofName? t.name = some t := by
  cases t <;> decide

/-- Reads a name in any case. -/
def ofText? (s : String) : Option SecurityType := ofName? (Text.lower s)

end SecurityType

end MarketHistory
