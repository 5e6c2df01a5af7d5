import MarketHistory.Desk.Basic

/-!
# Last known prices

The latest observation of each tick type of a symbol. The first look takes a few bars; if it finds
nothing of some tick type, a second look for what is missing goes further back. Missing data are
no error, and neither is an archive that does not answer.
-/

namespace MarketHistory

/-- The latest observation of each tick type for which one was found. -/
abbrev LatestByType := List (TickType × Observation)

namespace LatestByType

/-- Whether an observation of a tick type was found. -/
def has (found : LatestByType) (t : TickType) : Bool := found.any (·.1 = t)

/-- Puts an observation in the place of the one for its tick type. -/
def put (found : LatestByType) (t : TickType) (o : Observation) : LatestByType :=
  if found.has t then found.map fun e => if e.1 = t then (t, o) else e
  else found ++ [(t, o)]

/-- The observations found. -/
def observations (found : LatestByType) : List Observation := found.map (·.2)

end LatestByType

/-- The last observation in a slice that answers a request for a symbol. -/
def Slice.latest? (s : Slice) (symbol : Symbol) (r : Request) : Option Observation :=
  s.data.reverse.find? fun o =>
    o.symbol = symbol && r.dataType.accepts o.dataType && o.tickType = r.tickType

/-- What was found, with what a slice has for the requests. -/
def LatestByType.putSlice (symbol : Symbol) (requests : List Request) (found : LatestByType)
    (s : Slice) : LatestByType :=
  requests.foldl
    (fun found r => match s.latest? symbol r with
      | some o => found.put r.tickType o
      | none   => found)
    found

/-- The observations by their time, those of one time by the priority of their tick types. -/
def Observation.arrange (priorities : List TickType) (prices : List Observation) :
    List Observation :=
  prices.mergeSort fun a b =>
    (compareLex (compareOn Observation.time) (compareOn (·.tickType.rankIn priorities)) a b).isLE

/-- The first of the observations whose tick type has the highest priority. -/
def Observation.primary? (priorities : List TickType) (prices : List Observation) :
    Option Observation :=
  let better (best : Option Observation) (o : Observation) : Option Observation :=
    match best with
    | some b => if o.tickType.rankIn priorities < b.tickType.rankIn priorities then some o else best
    | none   => some o
  prices.foldl better none

namespace Desk

/-- The resolution at which last known prices of a symbol are looked for. -/
def lookbackResolution (d : Desk) (symbol : Symbol) : Resolution :=
  d.settings.lookback.baseResolution (d.catalog.finestResolution? symbol)

/-- Looks over a number of bars for what was not found yet. The result tells whether all was found
that was looked for. Gaps are not filled, as made-up bars would hide that data are missing. -/
def lookForLatest (d : Desk) (symbol : Symbol) (periods : Nat) (resolution : Resolution)
    (found : LatestByType) : Traced (Bool × LatestByType) := do
  match d.planner.bars [symbol] periods (some resolution) d.now with
  | .error e =>
    Traced.notice (.lastPriceRequestsFailed symbol e)
    return (false, found)
  | .ok plan =>
    let planned ← plan.all
    let missing := planned.filter fun r => !found.has r.tickType
    let requests := missing.map fun r => { r with fillForward := none }
    if requests.isEmpty then return (true, found)
    match ← d.dispatch requests with
    | .error e =>
      Traced.notice (.lastPriceLookupFailed symbol e)
      return (false, found)
    | .ok slices =>
      let found := slices.foldl (LatestByType.putSlice symbol requests) found
      return (requests.all fun r => found.has r.tickType, found)

/-- The latest observation of each tick type of a symbol. -/
def latestByType (d : Desk) (symbol : Symbol) : Traced LatestByType := do
  if !d.connected || symbol.canonical then return []
  let resolution := d.lookbackResolution symbol
  let (complete, found) ←
    d.lookForLatest symbol d.settings.lookback.initialPeriods resolution []
  if complete then return found
  let periods := d.settings.lookback.escalatedPeriods resolution
  Traced.notice (.lookbackEscalated symbol resolution periods found.length)
  let (_, found) ← d.lookForLatest symbol periods resolution found
  return found

/-- The latest observations of a symbol, in the order of their time. -/
def lastKnownPrices (d : Desk) (symbol : Symbol) : Traced (List Observation) := do
  let found ← d.latestByType symbol
  return Observation.arrange (d.catalog.tickTypesOf symbol.securityType) found.observations

/-- The latest observation of a symbol whose tick type has the highest priority. -/
def lastKnownPrice? (d : Desk) (symbol : Symbol) : Traced (Option Observation) := do
  let prices ← d.lastKnownPrices symbol
  return Observation.primary? (d.catalog.tickTypesOf symbol.securityType) prices

end Desk

end MarketHistory
