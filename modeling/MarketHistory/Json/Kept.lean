import MarketHistory.Json.Basic
import MarketHistory.Number.Scaled

/-!
# Values kept until they can be read

A value with a tag can be read only when the tag is known, which may stand at its end. Until then
the value is kept as it is. That asks more of it than to be passed over: each text in it must
denote one, each number must lie in the range of binary numbers, and its arrays and objects may
nest up to a limit only.
-/

namespace MarketHistory.Json

/-- How deep the arrays and objects of a value may nest that is kept. -/
def nestingLimit : Nat := 127

mutual

/-- The value as it is kept, with at most `levels` arrays and objects around each of its parts. An
empty object stands for `null` where it is the value of the only key of another one. -/
def keep? (levels : Nat) : Json → Option Json
  | null           => some null
  | bool b         => some (bool b)
  | integer n      => (Binary64.ofScaled? (.ofInt n)).map fun _ => integer n
  | real n         => (Binary64.ofScaled? n).map fun _ => real n
  | string s       => some (string s)
  | unpaired       => none
  | array items    => if levels = 0 then none else (keepItems? (levels - 1) items).map array
  | object members =>
    if levels = 0 then none
    else
      match keepMembers? (levels - 1) members with
      | none                    => none
      | some [(key, object [])] => some (object [(key, null)])
      | some members            => some (object members)

/-- The items of an array as they are kept. -/
def keepItems? (levels : Nat) : List Json → Option (List Json)
  | []         => some []
  | j :: items => do return (← keep? levels j) :: (← keepItems? levels items)

/-- The members of an object as they are kept. -/
def keepMembers? (levels : Nat) : List (String × Json) → Option (List (String × Json))
  | []                  => some []
  | (key, j) :: members => do return (key, ← keep? levels j) :: (← keepMembers? levels members)

end

/-- A value with a tag that tells how to read it: the member `type` of an object or the first item
of an array. The rest nests at most `levels` deep. -/
def tagged? (levels : Nat) (j : Json) : Option (String × Json) := do
  match ← keep? levels j with
  | object members =>
    match members.filter (·.1 == "type") with
    | [(_, string tag)] => return (tag, object (members.filter (·.1 != "type")))
    | _                 => none
  | array (string tag :: items) => return (tag, array items)
  | _ => none

end MarketHistory.Json
