import MarketHistory.Settings.Raw
import MarketHistory.Text.LetterCase

/-!
# Settings in the environment

Environment variables that name settings, and the values that their texts denote.
-/

namespace MarketHistory.Environment

open Text

/-- The text with a point for every two underscores. -/
def pointed : List Char → List Char
  | '_' :: '_' :: rest => '.' :: pointed rest
  | c :: rest          => c :: pointed rest
  | []                 => []

/-- The key of the setting that a variable names: what follows the `history__` in front, in lower
case. -/
def key? (name : String) : Option String :=
  match (lower name).toList with
  | 'h' :: 'i' :: 's' :: 't' :: 'o' :: 'r' :: 'y' :: '_' :: '_' :: rest =>
    some (String.ofList (pointed rest))
  | _ => none

/-- A whole number of 64 bits, with an optional sign. -/
def integer? (text : String) : Option Int :=
  match readInt? text.toList with
  | some n => if -9223372036854775808 ≤ n ∧ n < 9223372036854775808 then some n else none
  | none   => none

/-- The value that a text denotes: a truth value or a number if it reads as one, else the text. -/
def valueOf (text : String) : RawValue :=
  match lower text with
  | "true"  => .bool true
  | "false" => .bool false
  | _       =>
    match integer? text, Binary64.ofText? text with
    | some n, _    => .integer n
    | none, some x => .float x
    | none, none   => .string text

/-- The settings among some variables. -/
def settings (environment : List (String × String)) : List (String × RawValue) :=
  environment.filterMap fun (name, text) => (key? name).map fun key => (key, valueOf text)

end MarketHistory.Environment
