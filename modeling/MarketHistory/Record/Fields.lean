/-!
# The fields of records

A record is written as named members, in any order and with others among them, or as a row of its
fields' values in their order. Here the values of its fields are picked out, and read one by one.
-/

namespace MarketHistory.Record

variable {α β : Type}

/-- The values of named fields among some members; none if a name occurs twice. -/
def fieldsByName? (names : List String) (members : List (String × α)) :
    Option (List (Option α)) :=
  names.mapM fun name =>
    match members.filter (·.1 == name) with
    | []     => some none
    | [m]    => some (some m.2)
    | _ :: _ => none

/-- The values of fields by their place, of which the first `least` have to be there. -/
def fieldsByPlace? (least : Nat) (names : List String) (items : List α) :
    Option (List (Option α)) :=
  if least ≤ items.length ∧ items.length ≤ names.length then
    some (items.map some ++ List.replicate (names.length - items.length) none)
  else none

/-- A field that has to be there. -/
def required? (read : β → Option α) (field : Option β) : Option α := field.bind read

/-- A field that has a default. -/
def orDefault? (read : β → Option α) (default : α) (field : Option β) : Option α :=
  match field with
  | some b => read b
  | none   => some default

end MarketHistory.Record
