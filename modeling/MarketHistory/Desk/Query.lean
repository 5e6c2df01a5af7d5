import MarketHistory.Desk.Basic

/-!
# Queries for past data

What a strategy can ask the desk: data of several symbols or one, of all types or one, over a span
of time, a number of bars or a range, and the data of the warm-up.
-/

namespace MarketHistory

/-- A query: a result or an error, and what happened on the way. -/
abbrev Query := ExceptT QueryError Traced

namespace Query

variable {α : Type}

/-- The query that fails where a request was invalid. -/
def ofInvalid : Except InvalidRequest α → Query α
  | .ok a    => pure a
  | .error e => throw (.invalidRequest e)

/-- The query that fails where a traced request was invalid. -/
def ofTraced (x : Traced (Except InvalidRequest α)) : Query α := do
  ofInvalid (← (x : Traced (Except InvalidRequest α)))

end Query

/-- How far back a query reaches. -/
inductive Window where
  /-- A span of time up to the present. -/
  | span (length : Span)
  /-- A number of bars up to the present. -/
  | periods (count : Nat)
  | range (start finish : Instant)
deriving DecidableEq

namespace Desk

/-- The answer to requests. -/
def historyRequests (d : Desk) (requests : List Request) : Query (List Slice) :=
  ExceptT.mk (d.historyOfRequests requests)

/-- The answer to all requests of a plan. -/
def historyPlan (d : Desk) (plan : Plan) : Query (List Slice) := do
  d.historyRequests (← plan.all)

/-! ### Several symbols, all types -/

/-- Data over a range of time. -/
def historyRange (d : Desk) (symbols : List Symbol) (start finish : Instant)
    (explicit : Option Resolution) (overrides : Overrides) : Query (List Slice) :=
  d.historyPlan (d.planner.range symbols start finish explicit overrides)

/-- Data over a span of time up to the present. -/
def historySpan (d : Desk) (symbols : List Symbol) (length : Span)
    (explicit : Option Resolution) : Query (List Slice) := do
  let start ← Query.ofInvalid (spanStart d.now length)
  d.historyRange symbols start d.now explicit .none

/-- Data over a number of bars up to the present. -/
def historyPeriods (d : Desk) (symbols : List Symbol) (periods : Nat)
    (explicit : Option Resolution) : Query (List Slice) := do
  let plan ← Query.ofInvalid (d.planner.bars symbols periods explicit d.now)
  d.historyPlan plan

/-! ### One type -/

/-- The request for data of a type of one symbol. -/
def requestOf (d : Desk) (symbol : Symbol) (requested : DataType) (window : Window)
    (explicit : Option Resolution) : Query Request := do
  match window with
  | .span length        =>
    let start ← Query.ofInvalid (spanStart d.now length)
    Query.ofTraced (d.planner.typedRange symbol requested start d.now explicit)
  | .periods count      =>
    Query.ofTraced (d.planner.typedBars symbol requested count explicit d.now)
  | .range start finish =>
    Query.ofTraced (d.planner.typedRange symbol requested start finish explicit)

/-- Data of a type of one symbol. -/
def historyOf (d : Desk) (symbol : Symbol) (requested : DataType) (window : Window)
    (explicit : Option Resolution) : Query (List Observation) := do
  let request ← d.requestOf symbol requested window explicit
  let slices ← d.historyRequests [request]
  return Slice.project slices symbol requested

/-- The plan of requests for data of a type of several symbols. -/
def typedPlan (d : Desk) (symbols : List Symbol) (requested : DataType) (window : Window)
    (explicit : Option Resolution) : Except InvalidRequest Plan :=
  match window with
  | .span length        =>
    match spanStart d.now length with
    | .ok start => .ok (d.planner.typedRanges symbols requested start d.now explicit)
    | .error e  => .error e
  | .periods count      => d.planner.typedBarsPlan symbols requested count explicit d.now
  | .range start finish => .ok (d.planner.typedRanges symbols requested start finish explicit)

/-- Data of a type of several symbols. Symbols without such data are left out. -/
def typedHistory (d : Desk) (symbols : List Symbol) (requested : DataType) (window : Window)
    (explicit : Option Resolution) : Query (List Slice) := do
  let plan ← Query.ofInvalid (d.typedPlan symbols requested window explicit)
  let slices ← d.historyPlan plan
  return Slice.restrict slices requested

/-! ### Bars of trades -/

/-- The range of time of a query for bars of one symbol. -/
def barRange (d : Desk) (symbol : Symbol) (window : Window) (resolution : Resolution) :
    Query (Instant × Instant) := do
  match window with
  | .span length        => return (← Query.ofInvalid (spanStart d.now length), d.now)
  | .periods count      =>
    let start ← Query.ofTraced (d.planner.startForPeriods symbol count (some resolution) d.now)
    return (start, d.now)
  | .range start finish => return (start, finish)

/-- Bars of trades of one symbol. Symbols that have quotes only have none, which is reported. -/
def tradeBars (d : Desk) (symbol : Symbol) (window : Window) (explicit : Option Resolution) :
    Query (List TradeBar) := do
  if symbol.securityType.isQuoteOnly then
    (Traced.notice (.tradeBarsOfQuoteOnly symbol) : Traced Unit)
  let resolution := d.resolver.effectiveResolution symbol explicit
  if resolution.isTick then throw (.invalidRequest .tickTradeBars)
  let (start, finish) ← d.barRange symbol window resolution
  let slices ← d.historyRange [symbol] start finish (some resolution) .none
  return (Slice.project slices symbol .tradeBar).filterMap Observation.tradeBar?

/-! ### Warm-up -/

/-- The plan of requests for the warm-up of all known symbols. -/
def warmUpPlan (d : Desk) : Except InvalidRequest Plan :=
  match d.warmUp.spec with
  | none => .ok []
  | some (.bars count explicit) => d.planner.bars d.knownSymbols count explicit d.now
  | some (.span length explicit) =>
    match spanStart d.now length with
    | .ok start => .ok (d.planner.range d.knownSymbols start d.now explicit .none)
    | .error e  => .error e

/-- The requests for the warm-up of all known symbols. -/
def warmUpRequests (d : Desk) : Query (List Request) := do
  let plan ← Query.ofInvalid d.warmUpPlan
  plan.all

/-- The data for the warm-up of all known symbols. -/
def warmUpHistory (d : Desk) : Query (List Slice) := do
  d.historyRequests (← d.warmUpRequests)

end Desk

end MarketHistory
