import MarketHistory.Request.Calendar
import MarketHistory.Subscription.Resolver

/-!
# Planning requests

What a strategy asks for, over a range of time or a number of bars, becomes requests: one for each
subscription of each symbol, or one for the best subscription of a requested type. Canonical
symbols are left out. Nothing here looks at the present; requests may reach into the future.
-/

namespace MarketHistory

/-- What a single call asks for in place of the options of subscriptions. -/
structure Overrides where
  fillForward   : Option Bool := none
  extendedHours : Option Bool := none
deriving DecidableEq

/-- Nothing is asked for in place of the options of subscriptions. -/
def Overrides.none : Overrides := {}

/-- The start of the range that reaches back from the present by a span. -/
def spanStart (now : Instant) (span : Span) : Except InvalidRequest Instant :=
  match now.sub? span with
  | some start => .ok start
  | none       => .error (.spanOutOfRange span)

/-! ### Plans -/

/-- Requests to be made, symbol by symbol. Only the symbols that are reached are worked on. -/
abbrev Plan := List (Traced (List Request))

namespace Plan

/-- All requests of a plan. -/
def all : Plan → Traced (List Request)
  | []           => pure []
  | step :: rest => do return (← step) ++ (← all rest)

/-- The first requests of a plan, without work on the symbols after them. -/
def take : Plan → Nat → Traced (List Request)
  | _, 0                => pure []
  | [], _               => pure []
  | step :: rest, n + 1 => do
    let requests ← step
    if n + 1 ≤ requests.length then return requests.take (n + 1)
    return requests ++ (← take rest (n + 1 - requests.length))

end Plan

/-! ### Planners -/

/-- What is needed to plan requests. -/
structure Planner where
  resolver : Resolver
  calendar : Calendar

namespace Planner

/-- The request for a subscription. Its resolution is the explicit one, else that of the
subscription. Gaps are filled at that resolution, but at the effective one if the call asks for
filling. -/
def request (p : Planner) (s : Subscription) (start finish : Instant) (hours : TradingHours)
    (explicit : Option Resolution) (effective : Resolution) (overrides : Overrides) : Request :=
  let resolution := explicit.getD s.resolution
  let defaults := p.resolver.defaults
  let filling := Layered.resolveWithSource
    ⟨defaults.fillForward, some s.fillForward, overrides.fillForward⟩
  { startTime     := start
    endTime       := finish
    dataType      := s.dataType
    symbol        := s.symbol
    resolution
    hours
    dataTimeZone  := s.dataTimeZone
    fillForward   := match filling with
      | (true, .call) => some effective
      | (true, _)     => some resolution
      | (false, _)    => none
    extendedHours := Layered.resolve
      ⟨defaults.extendedHours, some s.extendedHours, overrides.extendedHours⟩
    isCustom      := s.isCustom
    normalization := s.normalization
    tickType      := s.tickType }

/-- The trading hours of a symbol. -/
def hours (p : Planner) (symbol : Symbol) : TradingHours := (p.resolver.marketHours symbol).hours

/-- Asks the calendar since when a number of bars has passed. Ticks are counted as seconds. -/
def startOfBars (p : Planner) (symbol : Symbol) (periods : Nat) (resolution : Resolution)
    (dataTimeZone : TimeZone) (finish : Instant) : Traced Instant := do
  let counted := resolution.coarser .second
  let query : BarCountQuery :=
    { symbol, periods, resolution := counted, hours := p.hours symbol, dataTimeZone,
      endTime := finish }
  Traced.ask query
  let start := p.calendar query
  Traced.notice (.startComputed symbol periods counted start)
  return start

/-- The start of the range in which a number of bars of a symbol has passed. -/
def startForPeriods (p : Planner) (symbol : Symbol) (periods : Nat)
    (explicit : Option Resolution) (finish : Instant) : Traced (Except InvalidRequest Instant) := do
  if explicit = some .tick then return .error .tickPeriods
  let effective := p.resolver.effectiveResolution symbol explicit
  let zone := (p.resolver.marketHours symbol).dataTimeZone
  return .ok (← p.startOfBars symbol periods effective zone finish)

/-! ### All subscriptions -/

/-- The requests for a symbol over a range of time. -/
def symbolRange (p : Planner) (symbol : Symbol) (start finish : Instant)
    (explicit : Option Resolution) (overrides : Overrides) : Traced (List Request) := do
  let effective := p.resolver.effectiveResolution symbol explicit
  let subscriptions ← p.resolver.resolve symbol .base explicit
  return subscriptions.map fun s =>
    p.request s start finish (p.hours symbol) explicit effective overrides

/-- The requests for a symbol over a number of bars. -/
def symbolBars (p : Planner) (symbol : Symbol) (periods : Nat) (explicit : Option Resolution)
    (finish : Instant) : Traced (List Request) := do
  let effective := p.resolver.effectiveResolution symbol explicit
  match ← p.resolver.resolve symbol .base explicit with
  | []            => return []
  | first :: rest =>
    let start ← p.startOfBars symbol periods effective first.dataTimeZone finish
    return (first :: rest).map fun s =>
      p.request s start finish (p.hours symbol) (some effective) effective .none

/-- The plan of requests for some symbols over a range of time. -/
def range (p : Planner) (symbols : List Symbol) (start finish : Instant)
    (explicit : Option Resolution) (overrides : Overrides) : Plan :=
  (symbols.filter (!·.canonical)).map fun symbol =>
    p.symbolRange symbol start finish explicit overrides

/-- The plan of requests for some symbols over a number of bars, which cannot be ticks. -/
def bars (p : Planner) (symbols : List Symbol) (periods : Nat) (explicit : Option Resolution)
    (finish : Instant) : Except InvalidRequest Plan :=
  if explicit = some .tick then .error .tickPeriods
  else .ok ((symbols.filter (!·.canonical)).map fun symbol =>
    p.symbolBars symbol periods explicit finish)

/-! ### The best subscription of a type -/

/-- The request for a subscription of a symbol over a range of time. -/
def subscriptionRange (p : Planner) (symbol : Symbol) (s : Subscription) (start finish : Instant)
    (explicit : Option Resolution) : Request :=
  let effective := p.resolver.effectiveResolution symbol explicit
  p.request s start finish (p.hours symbol) explicit effective .none

/-- The request for a subscription of a symbol over a number of bars. -/
def subscriptionBars (p : Planner) (symbol : Symbol) (s : Subscription) (periods : Nat)
    (explicit : Option Resolution) (finish : Instant) : Traced Request := do
  let effective := p.resolver.effectiveResolution symbol explicit
  let start ← p.startOfBars symbol periods effective s.dataTimeZone finish
  return p.request s start finish (p.hours symbol) explicit effective .none

/-- The request for data of a type of one symbol over a range of time. -/
def typedRange (p : Planner) (symbol : Symbol) (requested : DataType) (start finish : Instant)
    (explicit : Option Resolution) : Traced (Except InvalidRequest Request) := do
  match ← p.resolver.resolveOne symbol requested explicit with
  | .error e => return .error e
  | .ok s    => return .ok (p.subscriptionRange symbol s start finish explicit)

/-- The request for data of a type of one symbol over a number of bars, which cannot be ticks. -/
def typedBars (p : Planner) (symbol : Symbol) (requested : DataType) (periods : Nat)
    (explicit : Option Resolution) (finish : Instant) :
    Traced (Except InvalidRequest Request) := do
  if explicit = some .tick then return .error .tickPeriods
  match ← p.resolver.resolveOne symbol requested explicit with
  | .error e => return .error e
  | .ok s    => return .ok (← p.subscriptionBars symbol s periods explicit finish)

/-- The best subscription of a type, or a notice that the symbol is left out. -/
def primary? (p : Planner) (symbol : Symbol) (requested : DataType)
    (explicit : Option Resolution) : Traced (Option Subscription) := do
  let found ← p.resolver.resolveFirst? symbol requested explicit
  if found.isNone then Traced.notice (.symbolSkipped symbol requested)
  return found

/-- The plan of requests for data of a type of some symbols over a range of time. Symbols without
such data are left out. -/
def typedRanges (p : Planner) (symbols : List Symbol) (requested : DataType)
    (start finish : Instant) (explicit : Option Resolution) : Plan :=
  (symbols.filter (!·.canonical)).map fun symbol => do
    match ← p.primary? symbol requested explicit with
    | none   => return []
    | some s => return [p.subscriptionRange symbol s start finish explicit]

/-- The plan of requests for data of a type of some symbols over a number of bars, which cannot be
ticks. Symbols without such data are left out. -/
def typedBarsPlan (p : Planner) (symbols : List Symbol) (requested : DataType) (periods : Nat)
    (explicit : Option Resolution) (finish : Instant) : Except InvalidRequest Plan :=
  if explicit = some .tick then .error .tickPeriods
  else .ok ((symbols.filter (!·.canonical)).map fun symbol => do
    match ← p.primary? symbol requested explicit with
    | none   => return []
    | some s => return [← p.subscriptionBars symbol s periods explicit finish])

end Planner

end MarketHistory
