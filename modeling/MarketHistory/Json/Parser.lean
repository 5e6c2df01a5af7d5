import MarketHistory.Json.Token

/-!
# Reading JSON

A text is read token by token. The arrays and objects that are still open wait on a stack.
-/

namespace MarketHistory.Json

/-- The members of an object. A key that denotes no text is missing. -/
abbrev Members := List (Option String × Json)

/-- An array or object that is still open, with what it has so far in reverse. -/
inductive Frame where
  | array (items : List Json)
  /-- An object with the key whose value is awaited. -/
  | member (members : Members) (key : Option String)

/-- What a text has to go on with. -/
inductive Stage where
  | value
  /-- The first item of an array, or its end. -/
  | firstItem
  /-- The first key of an object, or its end. -/
  | firstKey
  | key (members : Members)
  | colon (members : Members) (key : Option String)
  /-- A value is complete; what is around it goes on. -/
  | after (value : Json)

/-- The object with some members, if all their keys denote texts. -/
def ofMembers (members : Members) : Json :=
  match members.mapM fun (key, j) => key.map (·, j) with
  | some members => object members
  | none         => unpaired

/-- Reads the rest of a text. -/
def run : List Token → Stage → List Frame → Option Json
  -- after a value
  | [], .after j, [] => some j
  | .comma :: ts, .after j, .array items :: fs =>
    run ts .value (.array (j :: items) :: fs)
  | .endArray :: ts, .after j, .array items :: fs =>
    run ts (.after (Json.array (items.reverse ++ [j]))) fs
  | .comma :: ts, .after j, .member members key :: fs =>
    run ts (.key ((key, j) :: members)) fs
  | .endObject :: ts, .after j, .member members key :: fs =>
    run ts (.after (ofMembers (members.reverse ++ [(key, j)]))) fs
  -- keys
  | .endObject :: ts, .firstKey, fs              => run ts (.after (object [])) fs
  | .simple (.string key) :: ts, .firstKey, fs   => run ts (.colon [] (some key)) fs
  | .simple (.string key) :: ts, .key ms, fs     => run ts (.colon ms (some key)) fs
  | .simple .unpaired :: ts, .firstKey, fs       => run ts (.colon [] none) fs
  | .simple .unpaired :: ts, .key ms, fs         => run ts (.colon ms none) fs
  | .colon :: ts, .colon ms key, fs              => run ts .value (.member ms key :: fs)
  -- values
  | .simple j :: ts, .value, fs                  => run ts (.after j) fs
  | .beginArray :: ts, .value, fs                => run ts .firstItem fs
  | .beginObject :: ts, .value, fs               => run ts .firstKey fs
  | .endArray :: ts, .firstItem, fs              => run ts (.after (Json.array [])) fs
  | .simple j :: ts, .firstItem, fs              => run ts (.after j) (.array [] :: fs)
  | .beginArray :: ts, .firstItem, fs            => run ts .firstItem (.array [] :: fs)
  | .beginObject :: ts, .firstItem, fs           => run ts .firstKey (.array [] :: fs)
  | _, _, _                                      => none

/-- Reads a JSON text. -/
def parse? (s : String) : Option Json := do run (← tokens s.toList) .value []

end MarketHistory.Json
