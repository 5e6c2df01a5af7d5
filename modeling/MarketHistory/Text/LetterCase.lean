import MarketHistory.Text.CaseMapping
import MarketHistory.Text.CaseContext

/-!
# Upper and lower case

Full Unicode case conversion, independent of language: one letter may become several, and a
capital sigma at the end of a word becomes the final form of the small letter.
-/

namespace MarketHistory.Text

/-- The case form of a character by a table of runs. -/
def mapByRuns (runs : List CaseRun) (n : Nat) : Option Nat :=
  let run := runs.find? fun r => r.first ≤ n && n ≤ r.last && (n - r.first) % r.step == 0
  run.map fun r => ((n : Int) + r.shift).toNat

/-- The case form of a character outside ASCII by a table of sequences and one of runs. -/
def mapByTables (sequences : List (Nat × List Nat)) (runs : List CaseRun) (c : Char) :
    List Char :=
  match sequences.lookup c.toNat with
  | some form => form.map Char.ofNat
  | none      => [((mapByRuns runs c.toNat).map Char.ofNat).getD c]

/-- The upper case form of a character. -/
def upperChar (c : Char) : List Char :=
  if c.toNat < 128 then [c.toUpper] else mapByTables upperSequences upperRuns c

/-- The lower case form of a character that stands for itself. -/
def lowerChar (c : Char) : List Char :=
  if c.toNat < 128 then [c.toLower] else mapByTables lowerSequences lowerRuns c

/-! ### The final sigma -/

/-- Whether a character lies in one of some ranges. -/
def inRanges (ranges : List (Nat × Nat)) (c : Char) : Bool :=
  ranges.any fun r => r.1 ≤ c.toNat && c.toNat ≤ r.2

/-- Whether a text starts with a letter that has a case, after characters passed over. -/
def startsCased (s : List Char) : Bool :=
  match s.dropWhile (inRanges ignorableRanges) with
  | c :: _ => inRanges casedRanges c
  | []     => false

/-- The lower case form of a capital sigma: the final one if a letter comes before it in the word
and none after it. -/
def lowerSigma (before after : List Char) : Char :=
  if startsCased before && !startsCased after then 'ς' else 'σ'

/-- The lower case form of a text that stands after `before`, which is listed backwards. -/
def lowerAfter (before : List Char) : List Char → List Char
  | []        => []
  | c :: rest =>
    let form := if c = 'Σ' then [lowerSigma before rest] else lowerChar c
    form ++ lowerAfter (c :: before) rest

/-! ### Texts -/

/-- The text in upper case. -/
def upper (s : String) : String := String.ofList (s.toList.flatMap upperChar)

/-- The text in lower case. -/
def lower (s : String) : String := String.ofList (lowerAfter [] s.toList)

end MarketHistory.Text
