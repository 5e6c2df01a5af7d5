import MarketHistory.Json.Basic
import MarketHistory.Number.Scaled

/-!
# JSON tokens

The marks and simple values of which a JSON text consists, and how a text is cut into them.
-/

namespace MarketHistory.Json

open Text

/-- A mark or a value without parts. -/
inductive Token where
  | beginArray | endArray | beginObject | endObject | comma | colon
  | simple (value : Json)

/-! ### Strings -/

/-- The value of a hexadecimal digit. -/
def hexValue? (c : Char) : Option Nat :=
  if isDigit c then some (digitValue c)
  else if 'a' ≤ c ∧ c ≤ 'f' then some (c.toNat - 'a'.toNat + 10)
  else if 'A' ≤ c ∧ c ≤ 'F' then some (c.toNat - 'A'.toNat + 10)
  else none

/-- The number that four hexadecimal digits denote. -/
def hexNumber? (a b c d : Char) : Option Nat := do
  return (((← hexValue? a) * 16 + (← hexValue? b)) * 16 + (← hexValue? c)) * 16 + (← hexValue? d)

/-- The code that a letter after a backslash stands for. -/
def escapeCode? : Char → Option Nat
  | '"'  => some 0x22
  | '\\' => some 0x5C
  | '/'  => some 0x2F
  | 'b'  => some 0x08
  | 'f'  => some 0x0C
  | 'n'  => some 0x0A
  | 'r'  => some 0x0D
  | 't'  => some 0x09
  | _    => none

/-- Reads a string up to the quote that ends it: the codes of its characters and what follows. -/
def readString : List Char → Option (List Nat × List Char)
  | []                                  => none
  | '"' :: rest                         => some ([], rest)
  | '\\' :: 'u' :: a :: b :: c :: d :: rest => do
    let code ← hexNumber? a b c d
    let (codes, rest) ← readString rest
    return (code :: codes, rest)
  | '\\' :: c :: rest                   => do
    let code ← escapeCode? c
    let (codes, rest) ← readString rest
    return (code :: codes, rest)
  | c :: rest                           =>
    if c.toNat < 0x20 then none
    else do
      let (codes, rest) ← readString rest
      return (c.toNat :: codes, rest)

theorem length_of_readString {s : List Char} {codes : List Nat} {rest : List Char}
    (h : readString s = some (codes, rest)) : rest.length < s.length := by
  fun_induction readString s generalizing codes rest <;>
    grind [Option.bind_eq_some_iff]

/-- The characters of some codes, where a high and a low surrogate make one character. -/
def pairCodes : List Nat → Option (List Char)
  | []             => some []
  | a :: b :: rest =>
    if 0xD800 ≤ a ∧ a < 0xDC00 then
      if 0xDC00 ≤ b ∧ b < 0xE000 then
        (pairCodes rest).map
          (Char.ofNat (0x10000 + (a - 0xD800) * 0x400 + (b - 0xDC00)) :: ·)
      else none
    else if 0xDC00 ≤ a ∧ a < 0xE000 then none
    else (pairCodes (b :: rest)).map (Char.ofNat a :: ·)
  | [a]            => if 0xD800 ≤ a ∧ a < 0xE000 then none else some [Char.ofNat a]

/-- The value of a string with these codes. -/
def ofCodes (codes : List Nat) : Json :=
  match pairCodes codes with
  | some cs => string (String.ofList cs)
  | none    => unpaired

/-! ### Numbers -/

/-- Splits off the leading digits. -/
def spanDigits (s : List Char) : List Char × List Char := (s.takeWhile isDigit, s.dropWhile isDigit)

theorem length_dropWhile_le {α : Type} (p : α → Bool) (s : List α) :
    (s.dropWhile p).length ≤ s.length :=
  (List.dropWhile_suffix p).sublist.length_le

/-- Reads the digits before the point: a single zero, or digits that do not begin with zero. -/
def readWhole (s : List Char) : Option (List Char × List Char) :=
  match s with
  | '0' :: rest => some (['0'], rest)
  | _           =>
    let (ds, rest) := spanDigits s
    if ds.isEmpty then none else some (ds, rest)

theorem length_of_readWhole {s ds rest : List Char} (h : readWhole s = some (ds, rest)) :
    rest.length < s.length := by
  have hs := congrArg List.length (@List.takeWhile_append_dropWhile _ isDigit s)
  rw [List.length_append] at hs
  unfold readWhole spanDigits at h
  split at h
  · grind
  · have : (s.takeWhile isDigit).isEmpty = false → 0 < (s.takeWhile isDigit).length := by
      cases s.takeWhile isDigit <;> simp
    grind

/-- Reads the digits of a fraction, if a point begins one. -/
def readFraction (s : List Char) : Option (Option (List Char) × List Char) :=
  match s with
  | '.' :: rest =>
    let (ds, rest) := spanDigits rest
    if ds.isEmpty then none else some (some ds, rest)
  | _ => some (none, s)

theorem length_of_readFraction {s rest : List Char} {ds : Option (List Char)}
    (h : readFraction s = some (ds, rest)) : rest.length ≤ s.length := by
  unfold readFraction spanDigits at h
  grind [length_dropWhile_le]

/-- Reads an exponent, if a letter begins one. -/
def readExponent (s : List Char) : Option (Option Int × List Char) :=
  let digitsOf (negative : Bool) (s : List Char) : Option (Option Int × List Char) :=
    let (ds, rest) := spanDigits s
    if ds.isEmpty then none
    else some (some (if negative then -(ofDigits ds : Int) else ofDigits ds), rest)
  match s with
  | c :: rest =>
    if c = 'e' ∨ c = 'E' then
      match rest with
      | '+' :: rest => digitsOf false rest
      | '-' :: rest => digitsOf true rest
      | _           => digitsOf false rest
    else some (none, s)
  | [] => some (none, s)

theorem length_of_readExponent {s rest : List Char} {e : Option Int}
    (h : readExponent s = some (e, rest)) : rest.length ≤ s.length := by
  unfold readExponent spanDigits at h
  grind [length_dropWhile_le]

/-- The value of a number with these parts. -/
def ofNumberParts (negative : Bool) (whole : List Char) (fraction : Option (List Char))
    (exponent : Option Int) : Json :=
  match fraction, exponent with
  | none, none =>
    let n := ofDigits whole
    if negative ∧ n = 0 then real ⟨true, 0, 0⟩
    else integer (if negative then -n else n)
  | _, _ => real (Numeral.ofLeading negative whole (fraction.getD []) (exponent.getD 0))

/-- Reads a number without its sign. -/
def readUnsigned (negative : Bool) (s : List Char) : Option (Json × List Char) := do
  let (whole, rest) ← readWhole s
  let (fraction, rest) ← readFraction rest
  let (exponent, rest) ← readExponent rest
  return (ofNumberParts negative whole fraction exponent, rest)

theorem length_of_readUnsigned {negative : Bool} {s rest : List Char} {j : Json}
    (h : readUnsigned negative s = some (j, rest)) : rest.length < s.length := by
  unfold readUnsigned at h
  simp only [Option.bind_eq_bind, Option.bind_eq_some_iff, Option.pure_def, Option.some.injEq,
    Prod.exists, Prod.mk.injEq] at h
  obtain ⟨ds, a, ha, fs, b, hb, e, c, hc, -, rfl⟩ := h
  have := length_of_readWhole ha
  have := length_of_readFraction hb
  have := length_of_readExponent hc
  omega

/-! ### Tokens -/

/-- Reads a word in letters. -/
def ofWord? : List Char → Option Json
  | ['n', 'u', 'l', 'l']      => some null
  | ['t', 'r', 'u', 'e']      => some (bool true)
  | ['f', 'a', 'l', 's', 'e'] => some (bool false)
  | _                         => none

/-- Whether a character is a letter of a word. -/
def isWordChar (c : Char) : Bool := 'a' ≤ c && c ≤ 'z'

/-- Reads a word in letters that begins with the character `c`. -/
def readWord (c : Char) (rest : List Char) : Option (Json × List Char) :=
  if isWordChar c then
    (ofWord? (c :: rest.takeWhile isWordChar)).map fun j => (j, rest.dropWhile isWordChar)
  else none

/-- Reads a string, number or word that begins with the character `c`. -/
def readSimple (c : Char) (rest : List Char) : Option (Json × List Char) :=
  if c = '"' then (readString rest).map fun (codes, rest) => (ofCodes codes, rest)
  else if c = '-' then readUnsigned true rest
  else if isDigit c then readUnsigned false (c :: rest)
  else readWord c rest

theorem length_of_readSimple {c : Char} {rest after : List Char} {j : Json}
    (h : readSimple c rest = some (j, after)) : after.length ≤ rest.length := by
  unfold readSimple at h
  split at h
  · obtain ⟨⟨codes, a⟩, ha, he⟩ := Option.map_eq_some_iff.1 h
    have := length_of_readString ha
    grind
  · split at h
    · exact Nat.le_of_lt (length_of_readUnsigned h)
    · split at h
      · exact Nat.le_of_lt_succ (length_of_readUnsigned h)
      · unfold readWord at h
        split at h
        · obtain ⟨w, -, hw⟩ := Option.map_eq_some_iff.1 h
          cases hw
          exact length_dropWhile_le isWordChar rest
        · cases h

/-- The mark that a character is. -/
def mark? : Char → Option Token
  | '[' => some .beginArray
  | ']' => some .endArray
  | '{' => some .beginObject
  | '}' => some .endObject
  | ',' => some .comma
  | ':' => some .colon
  | _   => none

/-- Whether a character is blank in JSON. -/
def isSpace (c : Char) : Bool := c == ' ' || c == '\t' || c == '\n' || c == '\r'

/-- The tokens of a text. -/
def tokens (s : List Char) : Option (List Token) :=
  match s with
  | []        => some []
  | c :: rest =>
    if isSpace c then tokens rest
    else match mark? c with
      | some t => (tokens rest).map (t :: ·)
      | none   =>
        match h : readSimple c rest with
        | none            => none
        | some (j, after) =>
          have := length_of_readSimple h
          (tokens after).map (.simple j :: ·)
termination_by s.length

end MarketHistory.Json
