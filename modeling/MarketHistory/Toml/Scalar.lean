import MarketHistory.Toml.Basic

/-!
# Strings and numbers in TOML

How strings in their four forms, truth values and numbers are read. Lines end in a line feed here.
-/

namespace MarketHistory.Toml

open Text

/-! ### Characters of strings -/

/-- Whether a character may stand in strings and comments: no control character but the tab. -/
def isPlain (c : Char) : Bool := c = '\t' || (0x20 ≤ c.toNat && c.toNat != 0x7F)

/-- The value of a digit of a base up to 16. -/
def digitIn? (base : Nat) (c : Char) : Option Nat :=
  let value :=
    if isDigit c then digitValue c
    else if 'a' ≤ c ∧ c ≤ 'f' then c.toNat - 'a'.toNat + 10
    else if 'A' ≤ c ∧ c ≤ 'F' then c.toNat - 'A'.toNat + 10
    else base
  if value < base then some value else none

/-- Where the reading of a string stands. -/
inductive StringState where
  | plain
  /-- After a backslash. -/
  | escape
  /-- Within a code, with the number of digits to come and the value so far. -/
  | code (left value : Nat)
  /-- Behind a backslash at the end of a line; whether the line end has come. -/
  | lineEnd (seen : Bool)

/-- The character that a letter after a backslash stands for. -/
def escapeChar? : Char → Option Char
  | 'b'  => some '\x08'
  | 't'  => some '\t'
  | 'n'  => some '\n'
  | 'f'  => some '\x0c'
  | 'r'  => some '\r'
  | '"'  => some '"'
  | '\\' => some '\\'
  | _    => none

/-- What a character of a string, with line ends if `lines`, adds to its value, and where the
reading stands then. -/
def StringState.next? (lines : Bool) (c : Char) : StringState → Option (List Char × StringState)
  | .plain        => plain
  | .escape       =>
    match escapeChar? c with
    | some e => some ([e], .plain)
    | none   =>
      if c = 'u' then some ([], .code 4 0)
      else if c = 'U' then some ([], .code 8 0)
      else if lines ∧ (c = ' ' ∨ c = '\t' ∨ c = '\n') then some ([], .lineEnd (c = '\n'))
      else none
  | .code left value => do
    let value := 16 * value + (← digitIn? 16 c)
    if 1 < left then return ([], .code (left - 1) value)
    if value.isValidChar then return ([Char.ofNat value], .plain) else none
  | .lineEnd seen =>
    if c = ' ' ∨ c = '\t' then some ([], .lineEnd seen)
    else if c = '\n' then some ([], .lineEnd true)
    else if seen then plain
    else none
where
  plain : Option (List Char × StringState) :=
    if c = '\\' then some ([], .escape)
    else if isPlain c || (lines && c = '\n') then some ([c], .plain)
    else none

/-- The value of a basic string between its quotes. -/
def basicValue (lines : Bool) : StringState → List Char → Option (List Char)
  | .plain, []        => some []
  | .lineEnd true, [] => some []
  | _, []             => none
  | state, c :: rest  => do
    let (out, state) ← state.next? lines c
    return out ++ (← basicValue lines state rest)

/-! ### Ends of strings -/

/-- Splits a text at the first quote; behind a backslash, if `escapes`, a quote does not count. -/
def untilQuote (quote : Char) (escapes : Bool) : List Char → Option (List Char × List Char)
  | []             => none
  | [c]            => if c = quote then some ([], []) else none
  | c :: d :: rest =>
    if c = quote then some ([], d :: rest)
    else if escapes ∧ c = '\\' then
      (untilQuote quote escapes rest).map fun (cs, after) => (c :: d :: cs, after)
    else (untilQuote quote escapes (d :: rest)).map fun (cs, after) => (c :: cs, after)

/-- Splits a text at the first three quotes. Up to two more quotes right before them belong to the
text. -/
def untilQuotes (quote : Char) (escapes : Bool) : List Char → Option (List Char × List Char)
  | a :: b :: c :: rest =>
    if a = quote ∧ b = quote ∧ c = quote then
      let more := min 2 (rest.takeWhile (· = quote)).length
      some (List.replicate more quote, rest.drop more)
    else if escapes ∧ a = '\\' then
      (untilQuotes quote escapes (c :: rest)).map fun (cs, after) => (a :: b :: cs, after)
    else (untilQuotes quote escapes (b :: c :: rest)).map fun (cs, after) => (a :: cs, after)
  | _ => none

/-- Leaves out a line end at the start of a string of several lines. -/
def dropNewline : List Char → List Char
  | '\n' :: rest => rest
  | s            => s

/-- Reads a string that begins with a given quote, which has been taken. -/
def readString (quote : Char) (s : List Char) : Option (String × List Char) := do
  let basic := quote = '"'
  let value (lines : Bool) (raw : List Char) : Option String :=
    if basic then (basicValue lines .plain raw).map String.ofList
    else if raw.all fun c => isPlain c || (lines && c = '\n') then some (String.ofList raw)
    else none
  match s with
  | a :: b :: rest =>
    if a = quote ∧ b = quote then
      let (raw, rest) ← untilQuotes quote basic (dropNewline rest)
      return (← value true raw, rest)
    else
      let (raw, rest) ← untilQuote quote basic s
      return (← value false raw, rest)
  | _ =>
    let (raw, rest) ← untilQuote quote basic s
    return (← value false raw, rest)

/-- Reads a string of one line that begins with a given quote, which has been taken. -/
def readQuotedKey (quote : Char) (s : List Char) : Option (String × List Char) := do
  let (raw, rest) ← untilQuote quote (quote = '"') s
  if quote = '"' then return (String.ofList (← basicValue false .plain raw), rest)
  if raw.all isPlain then return (String.ofList raw, rest) else none

/-! ### Numbers -/

/-- The digits of a number without the underscores, each of which stands between two digits. -/
def plainDigits? (base : Nat) (s : List Char) : Option (List Char) :=
  let rec go : (afterDigit : Bool) → List Char → Option (List Char)
    | afterDigit, []        => if afterDigit then some [] else none
    | afterDigit, c :: rest =>
      if c = '_' then if afterDigit then go false rest else none
      else if (digitIn? base c).isSome then (go true rest).map (c :: ·)
      else none
  go false s

/-- The number that digits of a base denote. -/
def ofBase (base : Nat) (ds : List Char) : Nat :=
  ds.foldl (fun n c => base * n + (digitIn? base c).getD 0) 0

/-- A whole number of 64 bits. -/
def integer? (n : Int) : Option Toml :=
  if -9223372036854775808 ≤ n ∧ n < 9223372036854775808 then some (.integer n) else none

/-- The digits of a whole number in decimal, which has no needless zero in front. -/
def wholeDigits? (s : List Char) : Option (List Char) := do
  match ← plainDigits? 10 s with
  | '0' :: _ :: _ => none
  | ds            => return ds

/-- Reads an exponent with an optional sign. -/
def exponent? (s : List Char) : Option Int :=
  match s with
  | '+' :: rest => (plainDigits? 10 rest).map fun ds => (ofDigits ds : Int)
  | '-' :: rest => (plainDigits? 10 rest).map fun ds => -(ofDigits ds : Int)
  | _           => (plainDigits? 10 s).map fun ds => (ofDigits ds : Int)

/-- Reads a number without its sign. One above all numbers of the format is refused. -/
def unsigned? (negative : Bool) (s : List Char) : Option Toml := do
  let isMark (c : Char) : Bool := c == 'e' || c == 'E'
  let mantissa := s.takeWhile (!isMark ·)
  let exponent := s.dropWhile (!isMark ·)
  let whole ← wholeDigits? (mantissa.takeWhile (· ≠ '.'))
  let point := mantissa.dropWhile (· ≠ '.')
  if point.isEmpty ∧ exponent.isEmpty then
    let n : Int := ofDigits whole
    integer? (if negative then -n else n)
  else
    let fraction ← match point with
      | []          => some []
      | _ :: digits => plainDigits? 10 digits
    let e ← match exponent with
      | []          => some 0
      | _ :: digits => exponent? digits
    match Binary64.ofNumeral (.ofParts negative whole fraction e) with
    | .infinite false => none
    | x               => return .float x

/-- Reads a truth value or number. -/
def word? (s : List Char) : Option Toml :=
  match s with
  | ['t', 'r', 'u', 'e']      => some (.bool true)
  | ['f', 'a', 'l', 's', 'e'] => some (.bool false)
  | '0' :: 'x' :: ds          => (plainDigits? 16 ds).bind fun ds => integer? (ofBase 16 ds)
  | '0' :: 'o' :: ds          => (plainDigits? 8 ds).bind fun ds => integer? (ofBase 8 ds)
  | '0' :: 'b' :: ds          => (plainDigits? 2 ds).bind fun ds => integer? (ofBase 2 ds)
  | '+' :: rest               => special? false rest
  | '-' :: rest               => special? true rest
  | _                         => special? false s
where
  /-- Reads a number without its sign, or the name of one that is not finite. -/
  special? (negative : Bool) (s : List Char) : Option Toml :=
    match s with
    | ['i', 'n', 'f'] => some (.float (.infinite negative))
    | ['n', 'a', 'n'] => some (.float .nan)
    | _               => unsigned? negative s

end MarketHistory.Toml
