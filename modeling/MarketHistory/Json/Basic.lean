import MarketHistory.Number.Binary64

/-!
# JSON values

The values of JSON texts. Whole numbers are told apart from those with a fraction or an exponent,
of which the leading digits are kept.
-/

namespace MarketHistory

/-- A JSON value. -/
inductive Json where
  | null
  | bool (value : Bool)
  /-- A number without fraction and exponent. -/
  | integer (value : Int)
  /-- A number with a fraction or an exponent, or the number `-0`. -/
  | real (value : Numeral)
  | string (value : String)
  /-- A string that holds half of a surrogate pair and denotes no text, or an object with such a
  key. -/
  | unpaired
  | array (items : List Json)
  | object (members : List (String × Json))

namespace Json

/-- The value `true`, `false` or `null` for an optional value. -/
def ofOption {α : Type} (f : α → Json) : Option α → Json
  | some a => f a
  | none   => null

/-- A list as an array. -/
def ofList {α : Type} (f : α → Json) (items : List α) : Json := array (items.map f)

end Json

end MarketHistory
