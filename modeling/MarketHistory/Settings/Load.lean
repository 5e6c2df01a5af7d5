import MarketHistory.Settings.Environment
import MarketHistory.Settings.Reading
import MarketHistory.Settings.Tree
import MarketHistory.Toml.Document

/-!
# Loading settings

Settings come from a file, and variables of the environment override them.
-/

namespace MarketHistory

/-- Why settings could not be loaded. -/
inductive SettingsError where
  /-- There is no file. -/
  | missingFile
  /-- The file is no TOML document. -/
  | malformedFile
  /-- A key names a place in an array that is too far away to be filled. -/
  | unreachablePlace
  /-- A value is not one that its setting can have, or a part is missing. -/
  | invalidValue
deriving DecidableEq

/-- The message of an error, which is the same for all causes. -/
def SettingsError.message : SettingsError → String := fun _ => "설정 에러"

namespace Settings

/-- The settings in a tree of raw values. -/
def ofTree (tree : SettingTree) : Except SettingsError Settings :=
  match ofRaw? (.table tree) with
  | some settings => .ok settings
  | none          => .error .invalidValue

/-- Loads settings from the text of a file, if there is one, and variables of the environment. -/
def load (file : Option String) (environment : List (String × String)) :
    Except SettingsError Settings :=
  match file with
  | none      => .error .missingFile
  | some text =>
    match Toml.parse? text with
    | none         => .error .malformedFile
    | some entries =>
      let settings := RawValue.ofEntries entries ++ Environment.settings environment
      if settings.all fun e => (PathStep.ofKey e.1).all (·.isNear) then
        ofTree (SettingTree.setAll [] settings)
      else .error .unreachablePlace

/-- The settings in a text. -/
def ofText (text : String) : Except SettingsError Settings := load (some text) []

end Settings

end MarketHistory
