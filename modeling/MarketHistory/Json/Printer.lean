import MarketHistory.Json.Basic

/-!
# Writing JSON

The text of a value, without blanks. In strings, quotes, backslashes and control characters are
escaped.
-/

namespace MarketHistory.Json

open Text

/-- The hexadecimal digit with a value below 16. -/
def hexChar (n : Nat) : Char := if n < 10 then Char.ofNat (48 + n) else Char.ofNat (87 + n)

/-- A character as it stands in a string. -/
def charText (c : Char) : List Char :=
  if c = '"' then ['\\', '"']
  else if c = '\\' then ['\\', '\\']
  else if c.toNat < 0x20 then
    ['\\', 'u', '0', '0', hexChar (c.toNat / 16), hexChar (c.toNat % 16)]
  else [c]

/-- A string in quotes. -/
def stringText (s : String) : List Char := '"' :: s.toList.flatMap charText ++ ['"']

/-- A whole number. -/
def integerText (n : Int) : List Char :=
  if n < 0 then '-' :: digits n.natAbs else digits n.natAbs

/-- A number in scientific notation. -/
def realText (n : Numeral) : List Char :=
  (if n.negative then ['-'] else []) ++ digits n.digits ++ ['e'] ++ integerText n.exponent

mutual

/-- The text of a value. -/
def chars : Json → List Char
  | null           => ['n', 'u', 'l', 'l']
  | bool true      => ['t', 'r', 'u', 'e']
  | bool false     => ['f', 'a', 'l', 's', 'e']
  | integer n      => integerText n
  | real n         => realText n
  | string s       => stringText s
  | unpaired       => ['"', '\\', 'u', 'd', '8', '0', '0', '"']
  | array items    => '[' :: itemsChars items
  | object members => '{' :: membersChars members

/-- The items of an array up to its end. -/
def itemsChars : List Json → List Char
  | []      => [']']
  | [j]     => chars j ++ [']']
  | j :: js => chars j ++ ',' :: itemsChars js

/-- The members of an object up to its end. -/
def membersChars : List (String × Json) → List Char
  | []           => ['}']
  | [(k, j)]     => stringText k ++ ':' :: chars j ++ ['}']
  | (k, j) :: ms => stringText k ++ ':' :: chars j ++ ',' :: membersChars ms

end

/-- The text of a value. -/
def text (j : Json) : String := String.ofList j.chars

end MarketHistory.Json
