import MarketHistory.Desk.LastPrice
import MarketHistory.Desk.Query

/-!
# Changes and questions

Everything that can happen to a desk, as data: changes, which lead to another desk, and questions,
which leave the desk as it is. A run of a desk is a sequence of changes with questions in between.
-/

namespace MarketHistory

/-! ### Changes -/

/-- A change of a desk. -/
inductive Change where
  | setClock (now : Instant)
  | advanceClock (span : Span)
  | addSecurity (symbol : Symbol)
  | addSecurityWithHours (symbol : Symbol) (hours : TradingHours)
  | removeSecurity (symbol : Symbol)
  | addUniverse (symbol : Symbol)
  | subscribe (subscription : Subscription)
  | unsubscribe (symbol : Symbol)
  | load (resolution : Resolution) (observations : List Observation)
  | setFailure (reason : Option String)
  | setWarmUp (spec : WarmUpSpec)
  | lockWarmUp
  | observeWarmUp
  | finishWarmUp

/-- Why a change is refused. -/
inductive ChangeError where
  /-- The warm-up was set after the setup. -/
  | invalid (error : QueryError)
  /-- The clock would leave the calendar. -/
  | clockOverflow
deriving DecidableEq

namespace Desk

/-- The desk after a change; a change that is refused leaves it as it is. -/
def change? (d : Desk) : Change → Traced (Except ChangeError Desk)
  | .setClock now => return .ok { d with now }
  | .advanceClock span =>
    match d.now.add? span with
    | some now => return .ok { d with now }
    | none     => return .error .clockOverflow
  | .addSecurity symbol => return .ok { d with securities := d.securities.add symbol }
  | .addSecurityWithHours symbol hours =>
    return .ok { d with securities := d.securities.addWithHours symbol hours }
  | .removeSecurity symbol => return .ok { d with securities := d.securities.remove symbol }
  | .addUniverse symbol => return .ok { d with securities := d.securities.addUniverse symbol }
  | .subscribe subscription => return .ok { d with catalog := ← d.catalog.add subscription }
  | .unsubscribe symbol => return .ok { d with catalog := d.catalog.remove symbol }
  | .load resolution observations =>
    return .ok { d with archive := ← d.archive.load resolution observations }
  | .setFailure reason => return .ok { d with archive := { d.archive with failure := reason } }
  | .setWarmUp spec => do
    match ← d.warmUp.set spec with
    | .ok warmUp => return .ok { d with warmUp }
    | .error e   => return .error (.invalid e)
  | .lockWarmUp => return .ok { d with warmUp := ← d.warmUp.lock }
  | .observeWarmUp => return .ok { d with warmUp := d.warmUp.observe }
  | .finishWarmUp => return .ok { d with warmUp := ← d.warmUp.finish }

/-- The desk after a change, or as it was if the change is refused. -/
def after (d : Desk) (c : Change) : Desk :=
  match (d.change? c).value with
  | .ok d'   => d'
  | .error _ => d

/-- The desk after some changes, one after the other. -/
def afterAll (d : Desk) (changes : List Change) : Desk := changes.foldl after d

end Desk

/-! ### Questions -/

/-- A question about past data. -/
inductive Question where
  | requests (requests : List Request)
  | span (symbols : List Symbol) (length : Span) (explicit : Option Resolution)
  | periods (symbols : List Symbol) (count : Nat) (explicit : Option Resolution)
  | range (symbols : List Symbol) (start finish : Instant) (explicit : Option Resolution)
      (overrides : Overrides)
  | ofType (symbol : Symbol) (requested : DataType) (window : Window)
      (explicit : Option Resolution)
  | typed (symbols : List Symbol) (requested : DataType) (window : Window)
      (explicit : Option Resolution)
  | tradeBars (symbol : Symbol) (window : Window) (explicit : Option Resolution)
  | warmUp
  | lastPrices (symbol : Symbol)
  | lastPrice (symbol : Symbol)

/-- The answer to a question. -/
inductive Answer where
  | slices (slices : List Slice)
  | observations (observations : List Observation)
  | bars (bars : List TradeBar)
  | observation (observation : Option Observation)
deriving DecidableEq

namespace Answer

/-- The observations in an answer. -/
def observationList : Answer → List Observation
  | slices ss       => ss.flatMap Slice.data
  | observations os => os
  | bars bs         => bs.map .tradeBar
  | observation o   => o.toList

end Answer

namespace Desk

/-- The answer to a question. -/
def answer (d : Desk) : Question → Query Answer
  | .requests requests =>
    return .slices (← d.historyRequests requests)
  | .span symbols length explicit =>
    return .slices (← d.historySpan symbols length explicit)
  | .periods symbols count explicit =>
    return .slices (← d.historyPeriods symbols count explicit)
  | .range symbols start finish explicit overrides =>
    return .slices (← d.historyRange symbols start finish explicit overrides)
  | .ofType symbol requested window explicit =>
    return .observations (← d.historyOf symbol requested window explicit)
  | .typed symbols requested window explicit =>
    return .slices (← d.typedHistory symbols requested window explicit)
  | .tradeBars symbol window explicit =>
    return .bars (← d.tradeBars symbol window explicit)
  | .warmUp =>
    return .slices (← d.warmUpHistory)
  | .lastPrices symbol => do
    return .observations (← d.lastKnownPrices symbol)
  | .lastPrice symbol => do
    return .observation (← d.lastKnownPrice? symbol)

end Desk

end MarketHistory
