import MarketHistory.Number.Rounding
import MarketHistory.Text.Digits

/-!
# Binary floating point numbers

The numbers of the IEEE format of 64 bits: the one nearest to a decimal numeral, and the shortest
decimal numeral that reads back as a given one, written without an exponent.
-/

namespace MarketHistory

/-- A decimal numeral: `digits · 10 ^ exponent`, with a sign. -/
structure Numeral where
  negative : Bool
  digits   : Nat
  exponent : Int
deriving DecidableEq

namespace Numeral

open Text

/-- The numeral written with these digits before and after the point and this exponent. -/
def ofParts (negative : Bool) (whole fraction : List Char) (exponent : Int) : Numeral :=
  ⟨negative, ofDigits (whole ++ fraction), exponent - fraction.length⟩

end Numeral

/-- A number of the format. -/
inductive Binary64 where
  /-- The number `mantissa · 2 ^ exponent`, with a sign. -/
  | finite (negative : Bool) (mantissa : Nat) (exponent : Int)
  | infinite (negative : Bool)
  | nan
deriving DecidableEq

namespace Binary64

open Text

/-! ### From decimal -/

/-- The factor `base ^ exponent` as a fraction. -/
def powerFraction (base : Nat) (exponent : Int) : Nat × Nat :=
  if 0 ≤ exponent then (Nat.pow base exponent.toNat, 1)
  else (1, Nat.pow base (-exponent).toNat)

/-- The exponent with which a positive fraction has a mantissa of 53 bits, or the least exponent
of the format if that is larger. -/
def exponentFor (num den : Nat) : Int :=
  let guess : Int := (num.log2 : Int) - den.log2 - 52
  let (p, q) := powerFraction 2 guess
  -- the guess is at most one too large
  let exact := if num * q < Nat.pow 2 52 * (den * p) then guess - 1 else guess
  max exact (-1074)

/-- The number of the format nearest to a positive fraction. -/
def ofFraction (negative : Bool) (num den : Nat) : Binary64 :=
  let e := exponentFor num den
  let (p, q) := powerFraction 2 e
  let rounded := roundDiv (num * q) (den * p)
  let (m, e) := if rounded = Nat.pow 2 53 then (Nat.pow 2 52, e + 1) else (rounded, e)
  if 971 < e then .infinite negative else .finite negative m e

/-- The number of the format nearest to a numeral. -/
def ofNumeral (n : Numeral) : Binary64 :=
  -- the position of the leading digit decides far from the range of the format
  let size : Int := (Text.digits n.digits).length + n.exponent
  if n.digits = 0 ∨ size < -400 then .finite n.negative 0 0
  else if 400 < size then .infinite n.negative
  else
    let (p, q) := powerFraction 10 n.exponent
    ofFraction n.negative (n.digits * p) q

/-- Reads digits with an optional point, before or after which digits may be missing, and an
optional exponent. -/
def ofUnsigned? (negative : Bool) (s : List Char) : Option Binary64 := do
  let isMark (c : Char) : Bool := c == 'e' || c == 'E'
  let mantissa := s.takeWhile (!isMark ·)
  let whole := mantissa.takeWhile (· ≠ '.')
  let fraction := (mantissa.dropWhile (· ≠ '.')).drop 1
  let exponent ← match s.dropWhile (!isMark ·) with
    | []     => some 0
    | _ :: e => readInt? e
  if (whole ++ fraction).isEmpty || !(whole ++ fraction).all isDigit then none
  return ofNumeral (.ofParts negative whole fraction exponent)

/-- Reads a number with an optional sign: a numeral or, in any case, a name of one that is not
finite. -/
def ofText? (s : String) : Option Binary64 :=
  let signed (negative : Bool) (s : List Char) : Option Binary64 :=
    let name := s.map Char.toLower
    if name = ['i', 'n', 'f'] ∨ name = ['i', 'n', 'f', 'i', 'n', 'i', 't', 'y'] then
      some (.infinite negative)
    else if name = ['n', 'a', 'n'] then some .nan
    else ofUnsigned? negative s
  match s.toList with
  | '+' :: rest => signed false rest
  | '-' :: rest => signed true rest
  | cs          => signed false cs

/-! ### To decimal -/

/-- Whether the decimal `d · 10 ^ p` reads back as the positive number `m · 2 ^ e`: it lies
between the halves toward the neighbours, or on one of them if `m` is even. -/
def readsBack (m : Nat) (e : Int) (d : Nat) (p : Int) : Bool :=
  let (bn, bd) := powerFraction 2 (e - 2)
  let (tn, td) := powerFraction 10 p
  -- in quarters of the last binary place; the neighbour below a power of two is nearer
  let low := if m = Nat.pow 2 52 ∧ -1074 < e then 4 * m - 1 else 4 * m - 2
  let value := d * tn * bd
  let below := low * bn * td
  let above := (4 * m + 2) * bn * td
  if m % 2 = 0 then below ≤ value && value ≤ above else below < value && value < above

/-- A decimal with `10 ^ p` as its last place that reads back as the positive number `m · 2 ^ e`:
one of the two next to that number, the nearer one if both read back, the larger one if they are
equally near. -/
def decimalAt? (m : Nat) (e : Int) (p : Int) : Option (Nat × Int) :=
  let (bn, bd) := powerFraction 2 e
  let (tn, td) := powerFraction 10 p
  let num := m * bn * td
  let den := bd * tn
  let below := num / den
  let (nearer, other) :=
    if 2 * (num % den) < den then (below, below + 1) else (below + 1, below)
  if readsBack m e nearer p then some (nearer, p)
  else if readsBack m e other p then some (other, p)
  else none

/-- The decimal with the fewest digits that reads back as the positive number `m · 2 ^ e`; of
several the nearest. -/
def shortest (m : Nat) (e : Int) : Nat × Int :=
  let (bn, bd) := powerFraction 2 e
  let size : Int := (Text.digits (m * bn / bd)).length
  let start : Int := if m * bn < bd then 1 - ((Text.digits (bd / (m * bn))).length : Int) else size
  ((List.range 20).findSome? fun (i : Nat) => decimalAt? m e (start - i)).getD (m * bn / bd, 0)

/-- The digits of `d · 10 ^ p` with a point where it belongs. -/
def positional (d : Nat) (p : Int) : List Char :=
  if 0 ≤ p then Text.digits (d * Nat.pow 10 p.toNat)
  else
    let places := (-p).toNat
    let ds := padded (places + 1) d
    ds.take (ds.length - places) ++ ['.'] ++ ds.drop (ds.length - places)

/-- The text of a number: the shortest decimal that reads back, without an exponent. -/
def text : Binary64 → String
  | .nan            => "NaN"
  | .infinite true  => "-inf"
  | .infinite false => "inf"
  | .finite neg m e =>
    let sign := if neg then ['-'] else []
    if m = 0 then String.ofList (sign ++ ['0'])
    else
      let (d, p) := shortest m e
      String.ofList (sign ++ positional d p)

/-! ### To whole numbers -/

/-- The whole number nearest to a number, a half going away from zero, kept between 0 and `top`;
0 for what is no number. -/
def toNatRounded (top : Nat) : Binary64 → Nat
  | .nan             => 0
  | .infinite neg    => if neg then 0 else top
  | .finite true _ _ => 0
  | .finite false m e =>
    let (p, q) := powerFraction 2 e
    min top ((2 * m * p + q) / (2 * q))

/-- Whether a number is different from zero. -/
def isNonzero : Binary64 → Bool
  | .finite _ m _ => m != 0
  | _             => true

end Binary64

end MarketHistory
