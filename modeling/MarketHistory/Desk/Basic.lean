import MarketHistory.Archive.Basic
import MarketHistory.Desk.WarmUp
import MarketHistory.Request.Clipping
import MarketHistory.Request.Plan

/-!
# The desk

Everything that a strategy's queries for past data work with: settings, subscriptions, market
hours, the calendar, the clock, the archive, the known securities and the warm-up.
-/

namespace MarketHistory

/-- What queries work with. -/
structure Desk where
  settings   : Settings
  catalog    : Catalog
  book       : HoursBook
  calendar   : Calendar
  /-- The present. -/
  now        : Instant
  archive    : Archive
  /-- Whether queries reach the archive. -/
  connected  : Bool
  securities : Securities
  warmUp     : WarmUp

namespace Desk

/-- The resolver of the desk's subscriptions. -/
def resolver (d : Desk) : Resolver := ⟨d.catalog, d.book, d.securities, d.settings.defaults⟩

/-- The planner of the desk's requests. -/
def planner (d : Desk) : Planner := ⟨d.resolver, d.calendar⟩

/-- The known symbols, in order. -/
def knownSymbols (d : Desk) : List Symbol := d.securities.symbols

/-- The security with a ticker. -/
def symbolFor (d : Desk) (ticker : String) : Except QueryError Symbol :=
  match d.securities.find? ticker with
  | some symbol => .ok symbol
  | none        => .error (.invalidRequest (.unknownTicker ticker))

/-! ### Delivering requests -/

/-- The requests as they are delivered: without those for placeholders of universes, and cut off at
the present. -/
def prepare (d : Desk) (requests : List Request) : Traced ClippedBatch :=
  ClippedBatch.of d.now (requests.filter fun r => !d.securities.isUniverse r.symbol)

/-- Delivers requests to the archive. -/
def dispatch (d : Desk) (requests : List Request) : Traced (Except QueryError (List Slice)) := do
  Traced.submit requests
  let batch ← d.prepare requests
  Traced.notice (.dispatching batch.requests.length batch.clipped)
  d.archive.fetch batch.requests

/-- The answer to requests. -/
def historyOfRequests (d : Desk) (requests : List Request) :
    Traced (Except QueryError (List Slice)) :=
  if d.connected then d.dispatch requests else pure (.error .noProvider)

end Desk

end MarketHistory
