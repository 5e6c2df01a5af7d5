import MarketHistory.Data.Resolution
import MarketHistory.Instrument.SecurityType

/-!
# Reading names

Reading the names of resolutions and security types, with an error for a text that names none.
-/

namespace MarketHistory

/-- Why a text could not be read. -/
inductive ParseError where
  | unknownResolution (text : String)
  | unknownSecurityType (text : String)
deriving DecidableEq

/-- The message of an error. -/
def ParseError.message : ParseError → String
  | unknownResolution text   => "파싱 에러: Invalid resolution: " ++ text
  | unknownSecurityType text => "파싱 에러: Unknown security type: " ++ text

/-- Reads the name of a resolution. -/
def Resolution.parse (s : String) : Except ParseError Resolution :=
  match ofText? s with
  | some r => .ok r
  | none   => .error (.unknownResolution s)

/-- Reads the name of a security type. -/
def SecurityType.parse (s : String) : Except ParseError SecurityType :=
  match ofText? s with
  | some t => .ok t
  | none   => .error (.unknownSecurityType s)

end MarketHistory
