import MarketHistory.Text.Digits

/-!
# Paths to settings

The key of a setting may denote a path: names that lead from table to table, with points between
them, and places in arrays, which stand in brackets. A negative place is counted from the end.
-/

namespace MarketHistory

/-- A step from a raw value to a part of it. -/
inductive PathStep where
  | name (name : String)
  | place (index : Int)
deriving DecidableEq

namespace PathStep

open Text

/-- Whether a character may stand in a name of a path. -/
def isNameChar (c : Char) : Bool :=
  isDigit c || ('a' ≤ c && c ≤ 'z') || ('A' ≤ c && c ≤ 'Z') || c == '_' || c == '-' || c == ' '

/-- The text without spaces and tabs on both sides. -/
def trimSpaces (s : List Char) : List Char :=
  let isSpace (c : Char) : Bool := c == ' ' || c == '\t'
  ((s.dropWhile isSpace).reverse.dropWhile isSpace).reverse

/-- A place in an array: a number of 64 bits that may have a minus sign. -/
def index? (s : List Char) : Option Int := do
  let n ← match trimSpaces s with
    | '-' :: ds => (readNat? ds).map fun n => -(n : Int)
    | ds        => (readNat? ds).map Int.ofNat
  if -9223372036854775808 ≤ n ∧ n < 9223372036854775808 then return n else none

/-- What stands at some point of a key. -/
inductive Part where
  /-- A name, with its characters so far in reverse. -/
  | name (read : List Char)
  /-- A place, with its characters so far in reverse. -/
  | place (read : List Char)
  /-- A place is complete. -/
  | done

/-- What begins after a mark. -/
def Part.afterMark? : Char → Option Part
  | '.' => some (.name [])
  | '[' => some (.place [])
  | _   => none

/-- Reads the rest of a key. -/
def steps? : Part → List Char → Option (List PathStep)
  | .name read, []         =>
    if read.isEmpty then none else some [.name (String.ofList read.reverse)]
  | .name read, c :: rest  =>
    if isNameChar c then steps? (.name (c :: read)) rest
    else if read.isEmpty then none
    else do return .name (String.ofList read.reverse) :: (← steps? (← Part.afterMark? c) rest)
  | .place _, []           => none
  | .place read, c :: rest =>
    if c = ']' then do return .place (← index? read.reverse) :: (← steps? .done rest)
    else steps? (.place (c :: read)) rest
  | .done, []              => some []
  | .done, c :: rest       => do steps? (← Part.afterMark? c) rest

/-- The path that a key denotes; a key that denotes none is a name as it stands. -/
def ofKey (key : String) : List PathStep := (steps? (.name []) key.toList).getD [.name key]

/-- How far a place in an array may lie from its start or end. -/
def farthest : Nat := 16777216

/-- Whether a step leads to a name or to a place that is not too far. -/
def isNear : PathStep → Bool
  | name _  => true
  | place i => i.natAbs ≤ farthest

end PathStep

end MarketHistory
