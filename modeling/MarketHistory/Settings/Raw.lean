import MarketHistory.Toml.Basic

/-!
# Raw settings

The values of settings before they are read, whatever they come from.
-/

namespace MarketHistory

/-- A raw value of a setting. -/
inductive RawValue where
  | bool (value : Bool)
  | integer (value : Int)
  | float (value : Binary64)
  | string (value : String)
  | array (items : List RawValue)
  | table (entries : List (String × RawValue))
  /-- A place in an array into which nothing was put. -/
  | vacant

namespace RawValue

mutual

/-- The value in a document; dates and times count as texts. -/
def ofToml : Toml → RawValue
  | .bool b        => .bool b
  | .integer n     => .integer n
  | .float x       => .float x
  | .string s      => .string s
  | .moment text   => .string text
  | .array items   => .array (ofItems items)
  | .table entries => .table (ofEntries entries)

/-- The items of an array in a document. -/
def ofItems : List Toml → List RawValue
  | []         => []
  | t :: items => ofToml t :: ofItems items

/-- The entries of a table in a document. -/
def ofEntries : List (String × Toml) → List (String × RawValue)
  | []                   => []
  | (name, t) :: entries => (name, ofToml t) :: ofEntries entries

end

/-- The entries of a table; any other value has none. -/
def entries : Option RawValue → List (String × RawValue)
  | some (table es) => es
  | _               => []

/-- The items of an array; any other value has none. -/
def items : Option RawValue → List RawValue
  | some (array vs) => vs
  | _               => []

end RawValue

end MarketHistory
