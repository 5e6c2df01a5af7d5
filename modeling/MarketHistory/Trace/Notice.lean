import MarketHistory.Desk.WarmUpSpec
import MarketHistory.Request.Basic
import MarketHistory.Request.Error

/-!
# Notices

What the engine reports about its work, with the severity and wording of each report.
-/

namespace MarketHistory

/-- The severity of a notice. -/
inductive Severity where
  | debug | info | warning | error
deriving DecidableEq

/-- A report about a step of the work. -/
inductive Notice where
  | subscriptionAdded (subscription : Subscription)
  | defaultsSynthesized (symbol : Symbol) (requested : DataType) (resolution : Resolution)
      (count : Nat)
  | symbolSkipped (symbol : Symbol) (requested : DataType)
  | startComputed (symbol : Symbol) (periods : Nat) (resolution : Resolution) (start : Instant)
  | requestClipped (now : Instant) (request : Request)
  | dispatching (requests clipped : Nat)
  | observationsLoaded (resolution : Resolution) (count : Nat)
  | lookbackEscalated (symbol : Symbol) (resolution : Resolution) (periods found : Nat)
  | lastPriceRequestsFailed (symbol : Symbol) (error : InvalidRequest)
  | lastPriceLookupFailed (symbol : Symbol) (error : QueryError)
  | tradeBarsOfQuoteOnly (symbol : Symbol)
  | warmUpConfigured (spec : WarmUpSpec)
  | warmUpLocked
  | warmUpFinished (observers : Nat)
deriving DecidableEq

namespace Notice

/-- The severity of a notice. -/
def severity : Notice → Severity
  | lastPriceRequestsFailed .. => .warning
  | lastPriceLookupFailed ..   => .warning
  | tradeBarsOfQuoteOnly ..    => .error
  | warmUpFinished ..          => .info
  | _                          => .debug

/-- The text of a notice. -/
def message : Notice → String
  | subscriptionAdded ..       => "Subscription added"
  | defaultsSynthesized ..     => "No matching subscription, synthesized defaults"
  | symbolSkipped ..           => "No subscription of the requested type, skipping symbol"
  | startComputed ..           => "Computed bar count start time"
  | requestClipped ..          => "Request end time is in the future, clipping to current time"
  | dispatching ..             => "Dispatching history requests"
  | observationsLoaded ..      => "Observations loaded"
  | lookbackEscalated ..       => "Escalating last known price lookback"
  | lastPriceRequestsFailed .. => "마지막 가격 요청 생성 실패"
  | lastPriceLookupFailed ..   => "마지막 가격 조회 실패, 부분 결과 사용"
  | tradeBarsOfQuoteOnly ..    =>
    "Trade bar history on a Forex or CFD security returns an empty result, " ++
      "request QuoteBar data instead"
  | warmUpConfigured ..        => "Warm up configured"
  | warmUpLocked               => "Warm up configuration locked"
  | warmUpFinished ..          => "Warm up finished"

/-- The details of a notice, by name. -/
def fields : Notice → List (String × String)
  | subscriptionAdded subscription => [("subscription", subscription.text)]
  | defaultsSynthesized symbol requested resolution count =>
    [("symbol", symbol.text), ("requested", requested.title),
      ("resolution", resolution.name), ("count", toString count)]
  | symbolSkipped symbol requested =>
    [("symbol", symbol.text), ("data_type", requested.title)]
  | startComputed symbol periods resolution start =>
    [("symbol", symbol.text), ("periods", toString periods),
      ("resolution", resolution.name), ("start", start.displayText)]
  | requestClipped now request => [("now", now.displayText), ("request", request.text)]
  | dispatching requests clipped =>
    [("requests", toString requests), ("clipped", toString clipped)]
  | observationsLoaded resolution count =>
    [("resolution", resolution.name), ("loaded", toString count)]
  | lookbackEscalated symbol resolution periods found =>
    [("symbol", symbol.text), ("resolution", resolution.name), ("periods", toString periods),
      ("found", toString found)]
  | lastPriceRequestsFailed symbol error =>
    [("symbol", symbol.text), ("error", error.message)]
  | lastPriceLookupFailed symbol error =>
    [("symbol", symbol.text), ("error", error.message)]
  | tradeBarsOfQuoteOnly symbol => [("symbol", symbol.text)]
  | warmUpConfigured spec => [("spec", spec.text)]
  | warmUpLocked => []
  | warmUpFinished observers => [("observers", toString observers)]

end Notice

end MarketHistory
