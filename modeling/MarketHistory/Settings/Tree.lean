import MarketHistory.Settings.Path
import MarketHistory.Settings.Raw
import MarketHistory.Text.LetterCase

/-!
# The tree of raw settings

Settings from several sources are put into one tree of tables, a later one in the place of an
earlier one. Names are kept in lower case, so that their case does not matter.
-/

namespace MarketHistory

/-- A tree of raw settings: named values, some of which are tables. -/
abbrev SettingTree := List (String × RawValue)

namespace SettingTree

/-- The tree with the value at a name replaced by what `f` makes of it. -/
def alter (name : String) (f : Option RawValue → RawValue) : SettingTree → SettingTree
  | []        => [(name, f none)]
  | e :: rest => if e.1 = name then (name, f (some e.2)) :: rest else e :: alter name f rest

/-- The value at a name after it is altered. -/
theorem lookup_alter_self (name : String) (f : Option RawValue → RawValue) (t : SettingTree) :
    (t.alter name f).lookup name = some (f (t.lookup name)) := by
  fun_induction alter name f t <;> grind

/-- The value at another name is as before. -/
theorem lookup_alter_of_ne {name other : String} (h : other ≠ name)
    (f : Option RawValue → RawValue) (t : SettingTree) :
    (t.alter name f).lookup other = t.lookup other := by
  fun_induction alter name f t <;> grind

mutual

/-- What a value becomes when another is set in its place. The entries of a table are set one by
one, so that a table without entries takes the place of nothing. -/
def overlay : (new : RawValue) → (old : Option RawValue) → RawValue
  | .table [], some v    => v
  | .table entries, old  => .table (overlayAll entries (RawValue.entries old))
  | v, _                 => v

/-- The tree with some values set in it. -/
def overlayAll : (entries : List (String × RawValue)) → SettingTree → SettingTree
  | [], t             => t
  | (name, v) :: r, t => overlayAll r (t.alter (Text.lower name) (overlay v))

end

/-! ### Paths -/

/-- The items with the one at a place replaced by what `f` makes of it. A negative place is counted
from the end. Where the items do not reach a place, vacant ones fill the gap. -/
def alterPlace (index : Int) (f : RawValue → RawValue) (items : List RawValue) : List RawValue :=
  let n := index.natAbs
  if 0 ≤ index then (items ++ List.replicate (n + 1 - items.length) RawValue.vacant).modify n f
  else if n ≤ items.length then items.modify (items.length - n) f
  else f .vacant :: List.replicate (n - items.length - 1) .vacant ++ items

/-- What a value becomes when another is set at a path from it. The steps turn what lies on the way
into tables and arrays. At a name the other is laid over what is there; at a place it replaces
it. -/
def setAt (new : RawValue) : (path : List PathStep) → (old : Option RawValue) → RawValue
  | [], old                         => overlay new old
  | .name name :: path, old         =>
    .table (alter (Text.lower name) (setAt new path) (RawValue.entries old))
  | [.place index], old             =>
    .array (alterPlace index (fun _ => new) (RawValue.items old))
  | .place index :: step :: path, old =>
    .array (alterPlace index (fun v => setAt new (step :: path) (some v)) (RawValue.items old))

/-- The tree with a value set at a path. -/
def set (t : SettingTree) (path : List PathStep) (new : RawValue) : SettingTree :=
  RawValue.entries (some (setAt new path (some (.table t))))

/-- The tree with the settings of a source, whose keys denote paths. -/
def setAll (t : SettingTree) (source : List (String × RawValue)) : SettingTree :=
  source.foldl (fun t e => t.set (PathStep.ofKey e.1) e.2) t

end SettingTree

end MarketHistory
