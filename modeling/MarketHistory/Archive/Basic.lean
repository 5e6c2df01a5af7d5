import MarketHistory.Data.Slice
import MarketHistory.Order.SortedMap
import MarketHistory.Trace.Traced

/-!
# The archive

Past observations, by symbol, resolution and the time at which they were complete, and the answers
to requests for them: slices in the order of time.

An exchange may have to be asked whether it is open when an observation begins. At an end of the
calendar its clock may show no date, and asking then stops the program: there is no answer to the
batch (`Archive.fetch?`). What an answer is where there is one, is told for all batches alike
(`Archive.fetch`).
-/

namespace MarketHistory

/-- A symbol and the resolution of data about it. -/
structure SeriesKey where
  symbol     : Symbol
  resolution : Resolution
deriving DecidableEq

namespace SeriesKey

instance : Ord SeriesKey := ⟨compareLex (compareOn symbol) (compareOn resolution)⟩

instance : Std.TransOrd SeriesKey :=
  inferInstanceAs (Std.TransCmp (compareLex (compareOn symbol) (compareOn resolution)))

instance : Std.LawfulEqOrd SeriesKey where
  eq_of_compare {a b} h := by
    obtain ⟨hs, h⟩ := compareLex_compareOn_eq_iff.1 h
    have hr := compareOn_eq_iff.1 h
    cases a; cases b; simp_all

end SeriesKey

/-- Observations in the order of time; those of one time in the order of their arrival. -/
abbrev Timeline := SortedMap Instant (List Observation)

namespace Timeline

/-- The timeline with some more observations, each at the time at which it is complete. -/
def record (t : Timeline) (observations : List Observation) : Timeline :=
  observations.foldl (fun t o => t.push o.endTime o) t

/-- The observations after `start` and up to `finish`. -/
def between (t : Timeline) (start finish : Instant) : List Observation :=
  (t.entries.filter fun e => start < e.1 && e.1 ≤ finish).flatMap (·.2)

/-- The observations as slices. -/
def slices (t : Timeline) : List Slice := t.entries.map fun e => ⟨e.1, e.2⟩

end Timeline

/-- Past observations. -/
@[ext]
structure Archive where
  /-- The clocks by which exchanges are open. -/
  clocks  : ZoneClocks
  series  : SortedMap SeriesKey Timeline
  /-- Why the archive does not answer, if it does not. -/
  failure : Option String

namespace Archive

/-- The archive without observations. -/
def empty (clocks : ZoneClocks) : Archive := ⟨clocks, .empty, none⟩

/-- The archive with one more observation. -/
def store (a : Archive) (resolution : Resolution) (o : Observation) : Archive :=
  let add (t : Option Timeline) : Timeline := (t.getD .empty).push o.endTime o
  { a with series := a.series.alter ⟨o.symbol, resolution⟩ add }

/-- Loads observations at a resolution. -/
def load (a : Archive) (resolution : Resolution) (observations : List Observation) :
    Traced Archive := do
  Traced.notice (.observationsLoaded resolution observations.length)
  return observations.foldl (·.store resolution) a

/-- Whether a request leaves out what lies outside the regular session. Daily bars span whole
days, and an exchange that never closes has no other time. -/
def isRegularOnly (r : Request) : Bool :=
  !r.extendedHours && r.resolution < .daily && !r.hours.isAlwaysOpen

/-- Whether an observation of the right time, symbol and resolution answers a request. There is no
answer where the exchange has to be asked whether it is open, and cannot be. -/
def answers? (clocks : ZoneClocks) (r : Request) (o : Observation) : Option Bool :=
  if r.dataType.accepts o.dataType && o.tickType = r.tickType then
    if isRegularOnly r then r.hours.isOpen? clocks o.time else some true
  else some false

/-- Whether an observation of the right time, symbol and resolution answers a request, as far as that
can be told. -/
def answers (clocks : ZoneClocks) (r : Request) (o : Observation) : Bool :=
  r.dataType.accepts o.dataType && o.tickType = r.tickType &&
    (!isRegularOnly r || r.hours.isOpen clocks o.time)

/-- The observations of the series and the range of a request, in the order of time. -/
def inRange (a : Archive) (r : Request) : List Observation :=
  if r.isEmptyRange then []
  else match a.series.get? ⟨r.symbol, r.resolution⟩ with
    | none          => []
    | some timeline => timeline.between r.startTime r.endTime

/-- The observations that answer a request, in the order of time. -/
def matching (a : Archive) (r : Request) : List Observation :=
  (a.inRange r).filter (answers a.clocks r)

/-- The slices that answer a batch of requests. Observations of one time are in the order of the
requests. -/
def slices (a : Archive) (batch : List Request) : List Slice :=
  (Timeline.record SortedMap.empty (batch.flatMap a.matching)).slices

/-- Answers a batch of requests, and records it, whether it can be answered or not. An observation
of which cannot be told whether it answers is let through. -/
def fetch (a : Archive) (batch : List Request) : Traced (Except QueryError (List Slice)) := do
  Traced.deliver batch
  match a.failure with
  | some reason => return .error (.provider reason)
  | none        => return .ok (a.slices batch)

/-! ### Tests without an answer -/

/-- The observations that pass a test, if there is an answer for each of them. -/
def passing? (test : Observation → Option Bool) : List Observation → Option (List Observation)
  | []      => some []
  | o :: os => do
    let passes ← test o
    let rest ← passing? test os
    return if passes then o :: rest else rest

/-- Answers a batch of requests, and records it, with what passes a test. There is no answer where
the archive does not fail and the test has none for an observation in the range of a request. -/
def fetchBy? (a : Archive) (test : Request → Observation → Option Bool) (batch : List Request) :
    Option (Traced (Except QueryError (List Slice))) :=
  match a.failure with
  | some reason => some do
    Traced.deliver batch
    return .error (.provider reason)
  | none        => (batch.mapM fun r => passing? (test r) (a.inRange r)).map fun found => do
    Traced.deliver batch
    return .ok (Timeline.record SortedMap.empty found.flatten).slices

/-- Answers a batch of requests, and records it, unless an exchange that has to be asked whether it
is open cannot be asked. -/
def fetch? (a : Archive) (batch : List Request) :
    Option (Traced (Except QueryError (List Slice))) :=
  a.fetchBy? (answers? a.clocks) batch

end Archive

end MarketHistory
