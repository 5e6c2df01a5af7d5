/-!
# Decimal numerals

Writing a natural number in decimal digits, also to a fixed width, and reading digits back.
-/

namespace MarketHistory.Text

/-- Whether a character is one of the ASCII digits. -/
def isDigit (c : Char) : Bool := '0' ≤ c && c ≤ '9'

/-- The value of an ASCII digit. -/
def digitValue (c : Char) : Nat := c.toNat - '0'.toNat

/-- The number that a row of digits denotes. -/
def ofDigits (ds : List Char) : Nat := ds.foldl (fun n c => 10 * n + digitValue c) 0

/-- The decimal digits of a number, without leading zeros. -/
def digits (n : Nat) : List Char := Nat.toDigits 10 n

/-- The decimal digits of a number, filled up with leading zeros to at least `width` places. -/
def padded (width n : Nat) : List Char :=
  List.replicate (width - (digits n).length) '0' ++ digits n

/-- Splits off the leading digits of a text, at most `limit` of them. -/
def takeDigits : (limit : Nat) → List Char → List Char × List Char
  | 0, s              => ([], s)
  | _, []             => ([], [])
  | limit + 1, c :: s =>
    if isDigit c then
      let (ds, rest) := takeDigits limit s
      (c :: ds, rest)
    else ([], c :: s)

/-- Every digit taken is a digit. -/
theorem isDigit_of_mem_takeDigits {limit : Nat} {s : List Char} {c : Char}
    (h : c ∈ (takeDigits limit s).1) : isDigit c := by
  fun_induction takeDigits limit s <;> grind

/-- Reads a text that consists of one or more digits. -/
def readNat? (s : List Char) : Option Nat :=
  if !s.isEmpty && s.all isDigit then some (ofDigits s) else none

/-- Reads digits after an optional sign. -/
def readInt? (s : List Char) : Option Int :=
  match s with
  | '+' :: rest => (readNat? rest).map Int.ofNat
  | '-' :: rest => (readNat? rest).map fun n => -(n : Int)
  | _           => (readNat? s).map Int.ofNat

end MarketHistory.Text
