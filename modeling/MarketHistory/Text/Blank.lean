/-!
# Blank characters

The characters with the Unicode property White_Space, which readers of dates and times skip.
-/

namespace MarketHistory.Text

/-- Whether a character has the Unicode property White_Space. -/
def isBlank (c : Char) : Bool :=
  let n := c.toNat
  (9 ≤ n && n ≤ 13) || n == 0x20 || n == 0x85 || n == 0xA0 || n == 0x1680 ||
    (0x2000 ≤ n && n ≤ 0x200A) || n == 0x2028 || n == 0x2029 || n == 0x202F ||
    n == 0x205F || n == 0x3000

/-- The text without its leading blanks. -/
def dropBlanks (s : List Char) : List Char := s.dropWhile isBlank

end MarketHistory.Text
