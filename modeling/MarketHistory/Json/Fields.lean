import MarketHistory.Json.Basic
import MarketHistory.Record.Fields

/-!
# Records in JSON

A record is written as an object with its fields as members, in any order and with others among
them, or as an array of the fields' values in their order.
-/

namespace MarketHistory

namespace Json

open Record

/-- The values of the fields of a record; as an array it has at least the first `least`. -/
def fields? (least : Nat) (names : List String) : Json → Option (List (Option Json))
  | object members => fieldsByName? names members
  | array items    => fieldsByPlace? least names items
  | _              => none

/-- The text that a value is. -/
def string? : Json → Option String
  | string s => some s
  | _        => none

/-- The truth value that a value is. -/
def bool? : Json → Option Bool
  | bool b => some b
  | _      => none

/-- The whole number from 0 to 2⁶⁴ - 1 that a value is. -/
def count? : Json → Option Nat
  | integer n => if 0 ≤ n ∧ n < UInt64.size then some n.toNat else none
  | _         => none

/-- The items of a list, each read by `read`. -/
def list? {α : Type} (read : Json → Option α) : Json → Option (List α)
  | array items => items.mapM read
  | _           => none

/-- The value read by `read`, or `null` for no value. -/
def nullable? {α : Type} (read : Json → Option α) : Json → Option (Option α)
  | null => some none
  | j    => (read j).map some

/-- One of a set of names: the name as a string, or as the only key of an object whose value is
`null`. -/
def named? {α : Type} (ofName? : String → Option α) : Json → Option α
  | string s         => ofName? s
  | object [(s, null)] => ofName? s
  | _                => none

/-- A field that may be missing or `null`. -/
def optional? {α : Type} (read : Json → Option α) (field : Option Json) : Option (Option α) :=
  orDefault? (nullable? read) none field

end Json

end MarketHistory
