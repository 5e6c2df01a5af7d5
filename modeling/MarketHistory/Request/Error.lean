import MarketHistory.Data.Kind
import MarketHistory.Instrument.Symbol
import MarketHistory.Time.Span

/-!
# Errors of queries

Why a query for past data has no answer. That data are missing is no error.
-/

namespace MarketHistory

/-- What is wrong with a query. -/
inductive InvalidRequest where
  /-- No subscription of the instrument is of the requested type. -/
  | typeMismatch (symbol : Symbol) (requested : DataType) (actual : Option DataType)
      (resolution : Option Resolution)
  /-- Bars were to be counted at tick resolution. -/
  | tickPeriods
  /-- Bars of trades were requested at tick resolution. -/
  | tickTradeBars
  /-- A span reaches back before the first instant. -/
  | spanOutOfRange (span : Span)
  /-- No security has the ticker. -/
  | unknownTicker (ticker : String)
deriving DecidableEq

/-- The message of an invalid request. -/
def InvalidRequest.message : InvalidRequest → String
  | typeMismatch symbol requested actual resolution =>
    "The specified security is not of the requested type. Symbol: " ++ symbol.text ++
      " Requested Type: " ++ requested.title ++ " Actual Type: " ++
      ((actual.map DataType.title).getD "none") ++
      ((resolution.map fun r => " Requested Resolution." ++ r.title).getD "")
  | tickPeriods =>
    "History functions that accept a 'periods' parameter can not be used with Resolution.Tick"
  | tickTradeBars =>
    "Trade bar history can not be requested with Resolution.Tick; request Tick data or use " ++
      "slice history instead"
  | spanOutOfRange span =>
    "History span " ++ span.text ++ " reaches outside the supported time range"
  | unknownTicker ticker =>
    "Cannot create history for the given ticker '" ++ ticker ++ "'. Either use a symbol object " ++
      "or add the security before making the history request"

/-- Why a query has no answer. -/
inductive QueryError where
  /-- The query itself is wrong. -/
  | invalidRequest (cause : InvalidRequest)
  /-- The query comes at the wrong time. -/
  | invalidState (reason : String)
  /-- The archive did not answer. -/
  | provider (reason : String)
deriving DecidableEq

/-- The message of an error. -/
def QueryError.message : QueryError → String
  | invalidRequest cause => "Invalid request: " ++ cause.message
  | invalidState reason  => "Invalid state: " ++ reason
  | provider reason      => "Provider error: " ++ reason

/-- The warm-up was to be changed after the setup. -/
def QueryError.warmUpLocked : QueryError :=
  .invalidState "warm up cannot be changed after initialization"

/-- A query needs an archive and there is none. -/
def QueryError.noProvider : QueryError := .provider "no history provider configured"

end MarketHistory
