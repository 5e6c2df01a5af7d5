import MarketHistory.Number.Binary64

/-!
# TOML values

The values of TOML documents and the tables that are built from them line by line.
-/

namespace MarketHistory

/-- A TOML value. -/
inductive Toml where
  | bool (value : Bool)
  | integer (value : Int)
  | float (value : Binary64)
  | string (value : String)
  /-- A date, a time of day or both, given by its text. -/
  | moment (text : String)
  | array (items : List Toml)
  | table (entries : List (String × Toml))

namespace Toml

/-- How a table came about, which decides how it may go on. -/
inductive Origin where
  /-- By a header of its own. -/
  | header
  /-- As a part of the path in another table's header. -/
  | path
  /-- As a part of a dotted key. -/
  | dotted
deriving DecidableEq

/-- A part of a document that may still grow. -/
inductive Node where
  | value (value : Toml)
  | table (origin : Origin) (entries : List (String × Node))
  | tables (items : List (List (String × Node)))

/-- The entries with the node at a key replaced by what `f` makes of it. -/
def Node.update? (key : String) (f : Option Node → Option Node) :
    List (String × Node) → Option (List (String × Node))
  | []        => (f none).map fun n => [(key, n)]
  | e :: rest =>
    if e.1 = key then (f (some e.2)).map fun n => (key, n) :: rest
    else (update? key f rest).map (e :: ·)

/-- The entries of a table with those of a part of it replaced by what `f` makes of them. The part
is given by its path; of an array of tables it is the last one. A table of a dotted key must not
have a header of its own. -/
def Node.descend? (dotted : Bool)
    (f : Origin → List (String × Node) → Option (List (String × Node))) :
    (path : List String) → Origin → List (String × Node) → Option (List (String × Node))
  | [], origin, entries          => f origin entries
  | key :: path, _, entries      =>
    update? key
      (fun
        | none =>
          let origin := if dotted then Origin.dotted else Origin.path
          (descend? dotted f path origin []).map (.table origin)
        | some (.value _) => none
        | some (.tables items) => do
          let last ← items.getLast?
          return .tables (items.dropLast ++ [← descend? dotted f path .header last])
        | some (.table origin inner) =>
          if dotted && origin = .header then none
          else (descend? dotted f path origin inner).map (.table origin))
      entries

/-- The entries with a value at a key, which must be new. Only a table of a dotted key takes values
by dotted keys, and by no others. -/
def Node.assign? (path : List String) (key : String) (value : Toml) (origin : Origin)
    (entries : List (String × Node)) : Option (List (String × Node)) :=
  let put (origin : Origin) (entries : List (String × Node)) : Option (List (String × Node)) :=
    if (origin = .dotted) = path.isEmpty then none
    else update? key (fun
      | none   => some (.value value)
      | some _ => none) entries
  descend? true put path origin entries

/-- The document with a table opened by a header. A table has one header at most. -/
def Node.openTable? (path : List String) (key : String) (document : List (String × Node)) :
    Option (List (String × Node)) :=
  descend? false
    (fun _ => update? key fun
      | none                      => some (.table .header [])
      | some (.table .path inner) => some (.table .header inner)
      | some _                    => none)
    path .header document

/-- The document with one more table in an array of tables. -/
def Node.openItem? (path : List String) (key : String) (document : List (String × Node)) :
    Option (List (String × Node)) :=
  descend? false
    (fun _ => update? key fun
      | none                => some (.tables [[]])
      | some (.tables items) => some (.tables (items ++ [[]]))
      | some _              => none)
    path .header document

mutual

/-- The value of a finished part of a document. -/
def Node.close : Node → Toml
  | .value v         => v
  | .table _ entries => .table (closeEntries entries)
  | .tables items    => .array (closeItems items)

/-- The values of finished entries. -/
def Node.closeEntries : List (String × Node) → List (String × Toml)
  | []          => []
  | (k, n) :: r => (k, n.close) :: closeEntries r

/-- The values of finished tables. -/
def Node.closeItems : List (List (String × Node)) → List Toml
  | []     => []
  | e :: r => .table (closeEntries e) :: closeItems r

end

end Toml

end MarketHistory
