import MarketHistory.Number.Binary64

/-!
# Decimal numbers

Prices and quantities: a magnitude of 96 bits with up to 28 decimal places. The number of places
is kept, so that `1.50` and `1.5` are different values of equal size.
-/

namespace MarketHistory

/-- A decimal number, `magnitude / 10 ^ scale` with a sign. -/
structure Decimal where
  negative  : Bool
  magnitude : Nat
  scale     : Nat
  magnitude_lt : magnitude < Nat.pow 2 96
  scale_le     : scale ≤ 28
deriving DecidableEq

namespace Decimal

open Text

/-- The number with this sign, magnitude and number of places, if it has a place in the format.
A zero loses its sign. -/
def ofParts? (negative : Bool) (magnitude scale : Nat) : Option Decimal :=
  if h : magnitude < Nat.pow 2 96 ∧ scale ≤ 28 then
    some ⟨negative && magnitude != 0, magnitude, scale, h.1, h.2⟩
  else none

/-- Zero, without places. -/
def zero : Decimal := ⟨false, 0, 0, by decide, by decide⟩

/-- The whole number `n`, if it is not too large. -/
def ofInt? (n : Int) : Option Decimal := ofParts? (n < 0) n.natAbs 0

/-- The magnitude with its sign. -/
def signed (d : Decimal) : Int := if d.negative then -d.magnitude else d.magnitude

/-! ### Writing -/

/-- A magnitude with a point before its last `scale` digits. -/
def unsignedChars (magnitude scale : Nat) : List Char :=
  if scale = 0 then digits magnitude
  else
    let ds := padded (scale + 1) magnitude
    ds.take (ds.length - scale) ++ ['.'] ++ ds.drop (ds.length - scale)

/-- The number with all its places. -/
def chars (d : Decimal) : List Char :=
  (if d.negative then ['-'] else []) ++ unsignedChars d.magnitude d.scale

/-- The number with all its places. -/
def text (d : Decimal) : String := String.ofList d.chars

/-- A magnitude and a number of places without the trailing zeros among them. -/
def stripZeros (magnitude : Nat) : (scale : Nat) → Nat × Nat
  | 0         => (magnitude, 0)
  | scale + 1 =>
    if magnitude % 10 = 0 then stripZeros (magnitude / 10) scale else (magnitude, scale + 1)

/-- The number without trailing zeros among its places; zero has no sign. -/
def normalizedText (d : Decimal) : String :=
  let (magnitude, scale) := stripZeros d.magnitude d.scale
  let sign := if d.negative && magnitude != 0 then ['-'] else []
  String.ofList (sign ++ unsignedChars magnitude scale)

/-! ### Reading -/

/-- What has been read of a number: whether the point and a digit were seen, and the digits. -/
structure Reading where
  point : Bool
  any   : Bool
  magnitude : Nat
  scale     : Nat

/-- The number that has been read, if it has a digit. -/
def Reading.close (negative : Bool) (p : Reading) : Option Decimal :=
  if p.any then ofParts? negative p.magnitude p.scale else none

/-- The number that has been read, rounded by the first digit of what follows: up from 5 on. There
may be nothing but digits and underscores. -/
def Reading.roundBy (negative : Bool) (p : Reading) (rest : List Char) : Option Decimal :=
  if !rest.all fun c => isDigit c || c == '_' then none
  else if (rest.find? isDigit).all fun c => digitValue c < 5 then
    ofParts? negative p.magnitude p.scale
  else if p.magnitude + 1 < Nat.pow 2 96 then ofParts? negative (p.magnitude + 1) p.scale
  else if p.scale = 0 then none
  else ofParts? negative ((p.magnitude + 5) / 10) (p.scale - 1)

/-- Reads the digits of a number on. Digits are taken until the 28th place or until the magnitude
is full; underscores between them are skipped. -/
def readDigits (negative : Bool) (p : Reading) : List Char → Option Decimal
  | []        => p.close negative
  | c :: rest =>
    if isDigit c then
      let magnitude := 10 * p.magnitude + digitValue c
      if Nat.pow 2 96 ≤ magnitude then
        if p.point then p.roundBy negative (c :: rest) else none
      else
        let p := { p with any := true, magnitude, scale := if p.point then p.scale + 1 else 0 }
        if p.point ∧ 28 ≤ p.scale then p.roundBy negative rest else readDigits negative p rest
    else if c = '.' ∧ !p.point then readDigits negative { p with point := true } rest
    else if c = '_' ∧ p.any then readDigits negative p rest
    else none

/-- Reads a number in positional notation. -/
def ofPositional? (s : List Char) : Option Decimal :=
  let start : Reading := ⟨false, false, 0, 0⟩
  match s with
  | '-' :: rest => if rest.isEmpty then none else readDigits true start rest
  | '+' :: rest => if rest.isEmpty then none else readDigits false start rest
  | _           => readDigits false start s

/-- Reads the exponent of scientific notation, which may have a plus sign. -/
def readExponent? (s : List Char) : Option Nat :=
  match s with
  | '+' :: rest => readNat? rest
  | _           => readNat? s

/-- The number `d · 10 ^ exponent`, if it has a place in the format. The number of places is
reduced as far as it goes. -/
def scaleUp? (d : Decimal) (exponent : Nat) : Option Decimal :=
  if exponent ≤ d.scale then ofParts? d.negative d.magnitude (d.scale - exponent)
  else if 28 < exponent then none
  else ofParts? d.negative (d.magnitude * Nat.pow 10 (exponent - d.scale)) 0

/-- A magnitude without its last places, rounded by the first digit that is left out: up from 5
on. -/
def dropPlaces (magnitude : Nat) : (places : Nat) → Nat
  | 0          => magnitude
  | places + 1 => (magnitude / Nat.pow 10 places + 5) / 10

theorem dropPlaces_le (magnitude places : Nat) : dropPlaces magnitude places ≤ magnitude := by
  cases places with
  | zero => exact Nat.le_refl magnitude
  | succ places =>
    have := Nat.div_le_self magnitude (Nat.pow 10 places)
    show (magnitude / Nat.pow 10 places + 5) / 10 ≤ magnitude
    omega

/-- The number `d · 10 ^ -exponent`, rounded to 28 places. A zero that comes of rounding keeps the
sign. -/
def scaleDown? (d : Decimal) (exponent : Nat) : Option Decimal :=
  if 28 < exponent then none
  else
    let scale := d.scale + exponent
    some {
      negative  := d.negative
      magnitude := dropPlaces d.magnitude (scale - 28)
      scale     := min scale 28
      magnitude_lt := Nat.lt_of_le_of_lt (dropPlaces_le ..) d.magnitude_lt
      scale_le     := Nat.min_le_right .. }

/-- Reads a number in scientific notation. -/
def ofScientific? (s : List Char) : Option Decimal :=
  let isMark (c : Char) : Bool := c == 'e' || c == 'E'
  match s.dropWhile (!isMark ·) with
  | []       => none
  | _ :: exp => do
    let base ← ofPositional? (s.takeWhile (!isMark ·))
    match exp with
    | '-' :: exp => base.scaleDown? (← readExponent? exp)
    | _          => base.scaleUp? (← readExponent? exp)

/-- Reads a number in positional or scientific notation. -/
def ofText? (s : String) : Option Decimal :=
  ofPositional? s.toList <|> ofScientific? s.toList

/-- The number that a binary number's shortest text denotes. -/
def ofBinary64? (x : Binary64) : Option Decimal := ofPositional? x.text.toList

end Decimal

end MarketHistory
