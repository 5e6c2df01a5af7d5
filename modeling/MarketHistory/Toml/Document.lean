import MarketHistory.Toml.Moment
import MarketHistory.Toml.Scalar

/-!
# Reading TOML documents

A document is read line by line into tables that grow, then closed. Values nest up to a limit, and
keys have as many parts at most. Reading takes a bound on the number of its steps, for which the
length of the text is enough.
-/

namespace MarketHistory.Toml

open Text

/-! ### Blanks and comments -/

/-- The text without leading spaces and tabs. -/
def dropSpaces (s : List Char) : List Char := s.dropWhile fun c => c = ' ' || c = '\t'

/-- The text without a leading comment, which must hold plain characters only. -/
def dropComment? (s : List Char) : Option (List Char) :=
  match s with
  | '#' :: rest =>
    match rest.dropWhile isPlain with
    | []           => some []
    | '\n' :: rest => some ('\n' :: rest)
    | _            => none
  | _ => some s

/-- The text without leading spaces, comments and line ends, looking at up to `lines` lines. -/
def dropLines? : (lines : Nat) → List Char → Option (List Char)
  | 0, s         => some s
  | lines + 1, s => do
    match ← dropComment? (dropSpaces s) with
    | '\n' :: rest => dropLines? lines rest
    | rest         => return rest

/-- The text without all leading spaces, comments and line ends. -/
def dropAllLines? (s : List Char) : Option (List Char) := dropLines? (s.length + 1) s

/-! ### Keys -/

/-- Whether a character may stand in a key without quotes. -/
def isKeyChar (c : Char) : Bool :=
  isDigit c || ('a' ≤ c && c ≤ 'z') || ('A' ≤ c && c ≤ 'Z') || c = '_' || c = '-'

/-- Reads a key between dots. -/
def readKey (s : List Char) : Option (String × List Char) :=
  match s with
  | '"' :: rest  => readQuotedKey '"' rest
  | '\'' :: rest => readQuotedKey '\'' rest
  | _            =>
    let key := s.takeWhile isKeyChar
    if key.isEmpty then none else some (String.ofList key, s.dropWhile isKeyChar)

/-- How deep the arrays and tables of a value may nest, and how many parts a key may have. -/
def nestingLimit : Nat := 79

/-- Reads a key with up to `parts` parts: the path before the last part, the last part, and what
follows. -/
def readKeyPath : (parts : Nat) → List Char → Option (List String × String × List Char)
  | 0, _         => none
  | parts + 1, s => do
    let (key, rest) ← readKey (dropSpaces s)
    match dropSpaces rest with
    | '.' :: rest =>
      let (path, last, rest) ← readKeyPath parts rest
      return (key :: path, last, rest)
    | rest => return ([], key, rest)

/-- Reads a key with all its dots. -/
def readDottedKey (s : List Char) : Option (List String × String × List Char) :=
  readKeyPath nestingLimit s

/-! ### Values -/

/-- Whether a character may stand in a truth value or number. -/
def isWordChar (c : Char) : Bool := isKeyChar c || c = '+' || c = '.'

mutual

/-- Reads a value in up to `steps` steps that nests at most `levels` deep. -/
def readValue : (steps levels : Nat) → List Char → Option (Toml × List Char)
  | 0, _, _              => none
  | steps + 1, levels, s =>
    match s with
    | '"' :: rest  => (readString '"' rest).map fun (v, rest) => (.string v, rest)
    | '\'' :: rest => (readString '\'' rest).map fun (v, rest) => (.string v, rest)
    | '[' :: rest  =>
      if levels = 0 then none
      else (readItems steps (levels - 1) rest).map fun (vs, rest) => (.array vs, rest)
    | '{' :: rest  =>
      if levels = 0 then none
      else match dropSpaces rest with
        | '}' :: rest => some (.table [], rest)
        | rest        =>
          (readMembers steps (levels - 1) [] rest).map fun (es, rest) =>
            (.table (Node.closeEntries es), rest)
    | _            =>
      match scanMoment s with
      | some (text, rest) => some (.moment text, rest)
      | none              =>
        (word? (s.takeWhile isWordChar)).map fun v => (v, s.dropWhile isWordChar)

/-- Reads the items of an array up to its end. -/
def readItems : (steps levels : Nat) → List Char → Option (List Toml × List Char)
  | 0, _, _              => none
  | steps + 1, levels, s => do
    match ← dropAllLines? s with
    | ']' :: rest => return ([], rest)
    | start       =>
      let (v, rest) ← readValue steps levels start
      match ← dropAllLines? rest with
      | ']' :: rest => return ([v], rest)
      | ',' :: rest =>
        let (vs, rest) ← readItems steps levels rest
        return (v :: vs, rest)
      | _ => none

/-- Reads the members of a table in braces up to its end. -/
def readMembers : (steps levels : Nat) → List (String × Node) → List Char →
    Option (List (String × Node) × List Char)
  | 0, _, _, _                    => none
  | steps + 1, levels, entries, s => do
    let (path, key, rest) ← readDottedKey s
    match rest with
    | '=' :: rest =>
      let (v, rest) ← readValue steps levels (dropSpaces rest)
      let entries ← Node.assign? path key v .header entries
      match dropSpaces rest with
      | '}' :: rest => return (entries, rest)
      | ',' :: rest => readMembers steps levels entries rest
      | _           => none
    | _ => none

end

/-! ### Documents -/

/-- The tables read so far, and the path of the one to which keys belong now. -/
structure Document where
  root    : List (String × Node)
  current : List String

namespace Document

/-- Reads a line that is not blank: a header or a key with its value. -/
def line? (d : Document) (s : List Char) : Option (Document × List Char) :=
  match s with
  | '[' :: '[' :: rest => do
    let (path, key, rest) ← readDottedKey rest
    match rest with
    | ']' :: ']' :: rest => return (⟨← Node.openItem? path key d.root, path ++ [key]⟩, rest)
    | _                  => none
  | '[' :: rest => do
    let (path, key, rest) ← readDottedKey rest
    match rest with
    | ']' :: rest => return (⟨← Node.openTable? path key d.root, path ++ [key]⟩, rest)
    | _           => none
  | _ => do
    let (path, key, rest) ← readDottedKey s
    match rest with
    | '=' :: rest =>
      let rest := dropSpaces rest
      let (v, rest) ← readValue (rest.length + 1) nestingLimit rest
      let root ← Node.descend? false (Node.assign? path key v) d.current .header d.root
      return (⟨root, d.current⟩, rest)
    | _ => none

/-- Reads up to `lines` lines. -/
def lines? : (lines : Nat) → Document → List Char → Option Document
  | 0, _, _         => none
  | lines + 1, d, s => do
    match ← dropAllLines? s with
    | []    => return d
    | start =>
      let (d, rest) ← d.line? start
      match ← dropComment? (dropSpaces rest) with
      | []           => return d
      | '\n' :: rest => lines? lines d rest
      | _            => none

end Document

/-- The text with line feeds for line ends; a carriage return stands nowhere else. -/
def unifyLineEnds? : List Char → Option (List Char)
  | []                   => some []
  | '\r' :: '\n' :: rest => (unifyLineEnds? rest).map ('\n' :: ·)
  | c :: rest            => if c = '\r' then none else (unifyLineEnds? rest).map (c :: ·)

/-- Reads a document, which may begin with a byte order mark. -/
def parse? (s : String) : Option (List (String × Toml)) := do
  let text ← unifyLineEnds? (match s.toList with
    | '\uFEFF' :: rest => rest
    | cs               => cs)
  let d ← Document.lines? (text.length + 1) ⟨[], []⟩ text
  return Node.closeEntries d.root

end MarketHistory.Toml
