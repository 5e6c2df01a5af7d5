import MarketHistory.Text.Blank
import MarketHistory.Text.Digits

/-!
# Scanning a text from the left

Steps that take something off the front of a text or fail; they are chained with `do`.
-/

namespace MarketHistory.Text

/-- A step that reads a value off the front of a text, or fails. -/
abbrev Scan := StateT (List Char) Option

namespace Scan

/-- Skips blanks. -/
def blanks : Scan Unit := modify dropBlanks

/-- Takes the character `c`. -/
def char (c : Char) : Scan Unit := do
  match ← get with
  | d :: rest => if d = c then set rest else failure
  | []        => failure

/-- Takes one of the characters for which `p` holds. -/
def one (p : Char → Bool) : Scan Char := do
  match ← get with
  | c :: rest => if p c then set rest; pure c else failure
  | []        => failure

/-- Takes a number of one to `limit` digits. -/
def number (limit : Nat) : Scan Nat := do
  let (ds, rest) := takeDigits limit (← get)
  if ds.isEmpty then failure
  set rest
  pure (ofDigits ds)

/-- Takes a number of any length. -/
def longNumber : Scan Nat := do
  number (← get).length

/-- Takes a number of exactly two digits. -/
def twoDigits : Scan Nat := do
  let a ← one isDigit
  let b ← one isDigit
  pure (ofDigits [a, b])

/-- Runs a scan on a whole text, which it has to use up but for trailing blanks. -/
def whole {α : Type} (scan : Scan α) (s : String) : Option α :=
  match scan s.toList with
  | some (a, rest) => if (dropBlanks rest).isEmpty then some a else none
  | none           => none

end Scan

end MarketHistory.Text
