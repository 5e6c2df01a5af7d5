import MarketHistory.Settings.Basic
import MarketHistory.Text.LetterCase

/-!
# Log formats

In which format log records are written, and the options of logging that follow from settings or
from the environment.
-/

namespace MarketHistory

/-- A format of log records. -/
inductive LogFormat where
  /-- On several lines, for reading during development. -/
  | pretty
  /-- As JSON, for collecting. -/
  | json
  /-- On one line. -/
  | compact
deriving DecidableEq

namespace LogFormat

/-- All formats. -/
def all : List LogFormat := [pretty, json, compact]

/-- The name of a format. -/
def name : LogFormat → String
  | pretty  => "pretty"
  | json    => "json"
  | compact => "compact"

/-- Reads a name in any case. -/
def ofText? (s : String) : Option LogFormat := all.find? (·.name == Text.lower s)

/-- The message about a text that is no format. -/
def unknownMessage (s : String) : String := "Unknown log format: " ++ s

end LogFormat

/-- The options of logging. -/
structure LogOptions where
  /-- Which records are written. -/
  level      : String
  format     : LogFormat
  /-- Whether the place in the program is written. -/
  withFile   : Bool := true
  /-- Whether the part of the program is written. -/
  withTarget : Bool := true
deriving DecidableEq

namespace LogOptions

/-- The options for a level and the text of a format. A text that is no format stands for the
pretty one. -/
def of (level format : String) : LogOptions :=
  { level, format := (LogFormat.ofText? format).getD .pretty }

/-- The options that follow from settings. -/
def ofSettings (s : LoggingSettings) : LogOptions := of s.level s.format

/-- The options that follow from variables of the environment. -/
def ofVariables (level format : Option String) : LogOptions :=
  of (level.getD "info") (format.getD LogFormat.pretty.name)

end LogOptions

end MarketHistory
