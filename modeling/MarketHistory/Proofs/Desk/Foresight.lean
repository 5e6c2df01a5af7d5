import MarketHistory.Proofs.Desk.Dispatch
import MarketHistory.Time.Zone.Exchanges

/-!
# No foresight

A desk knows nothing of the future: two desks that differ only in what their archives hold of the
time after the present answer every question alike and do the same on the way
(`answer_eq_of_logUpTo_eq`). The archive is reached through dispatch alone, so that it is enough
that dispatch cannot tell the two archives apart.
-/

namespace MarketHistory

/-- Archives with the same past hold the same at every time of it. -/
lemma Archive.completedAt_eq_of_logUpTo_eq (clocks : ZoneClocks) {now : Instant}
    {loads loads' : List Load} (h : Load.logUpTo now loads = Load.logUpTo now loads')
    (failure : Option String) (key : SeriesKey) {time : Instant} (ht : time ≤ now) :
    ((loaded clocks loads failure).seriesOf key).completedAt time =
      ((loaded clocks loads' failure).seriesOf key).completedAt time := by
  -- what is complete at a time of the past is read off the past of the log
  have hpast : ∀ loads, (key.select (Load.log loads)).filter (·.endTime = time) =
      (key.select (Load.logUpTo now loads)).filter (·.endTime = time) := by
    intro loads
    have himp : ∀ o : Observation,
        decide (o.endTime = time) = (decide (o.endTime = time) && decide (o.endTime ≤ now)) := by
      intro o
      by_cases ho : o.endTime = time
      · simp [ho, ht]
      · simp [ho]
    rw [Load.logUpTo, ← key.filter_select (fun o => o.endTime ≤ now), List.filter_filter]
    exact List.filter_congr fun o _ => himp o
  rw [completedAt_loaded, completedAt_loaded, hpast, hpast loads', h]

namespace Desk

section SameDispatch

/-! ### Desks with the same dispatch -/

variable {d : Desk} {a a' : Archive}

lemma historyRequests_congr
    (h : ∀ requests, (d.withArchive a).dispatch requests = (d.withArchive a').dispatch requests) :
    (d.withArchive a).historyRequests = (d.withArchive a').historyRequests := by
  funext requests
  simp only [historyRequests, historyOfRequests]
  rw [h requests]
  rfl

lemma lookForLatest_congr
    (h : ∀ requests, (d.withArchive a).dispatch requests = (d.withArchive a').dispatch requests)
    (symbol : Symbol) (periods : Nat) (resolution : Resolution) (found : LatestByType) :
    (d.withArchive a).lookForLatest symbol periods resolution found =
      (d.withArchive a').lookForLatest symbol periods resolution found := by
  simp only [lookForLatest]
  simp only [h]
  rfl

lemma lastKnownPrices_congr
    (h : ∀ requests, (d.withArchive a).dispatch requests = (d.withArchive a').dispatch requests)
    (symbol : Symbol) :
    (d.withArchive a).lastKnownPrices symbol = (d.withArchive a').lastKnownPrices symbol := by
  simp only [lastKnownPrices, latestByType]
  simp only [lookForLatest_congr h]
  rfl

/-- Desks that differ only in the archive answer alike if they dispatch alike. -/
lemma answer_congr
    (h : ∀ requests, (d.withArchive a).dispatch requests = (d.withArchive a').dispatch requests)
    (q : Question) : (d.withArchive a).answer q = (d.withArchive a').answer q := by
  have hrequests := historyRequests_congr h
  cases q with
  | requests requests => simp only [answer, hrequests]
  | span symbols length explicit =>
    simp only [answer, historySpan, historyRange, historyPlan, hrequests]
    rfl
  | periods symbols count explicit =>
    simp only [answer, historyPeriods, historyPlan, hrequests]
    rfl
  | range symbols start finish explicit overrides =>
    simp only [answer, historyRange, historyPlan, hrequests]
    rfl
  | ofType symbol requested window explicit =>
    simp only [answer, historyOf, hrequests]
    rfl
  | typed symbols requested window explicit =>
    simp only [answer, typedHistory, historyPlan, hrequests]
    rfl
  | tradeBars symbol window explicit =>
    simp only [answer, tradeBars, historyRange, historyPlan, hrequests]
    rfl
  | warmUp =>
    simp only [answer, warmUpHistory, hrequests]
    rfl
  | lastPrices symbol => simp only [answer, lastKnownPrices_congr h]
  | lastPrice symbol =>
    simp only [answer, lastKnownPrice?, lastKnownPrices_congr h]
    rfl

end SameDispatch

/-- Archives with the same past are dispatched to alike. -/
lemma dispatch_congr (d : Desk) (clocks : ZoneClocks) {loads loads' : List Load}
    (h : Load.logUpTo d.now loads = Load.logUpTo d.now loads') (failure : Option String)
    (requests : List Request) :
    (d.withArchive (.loaded clocks loads failure)).dispatch requests =
      (d.withArchive (.loaded clocks loads' failure)).dispatch requests := by
  have hfetch : (Archive.loaded clocks loads failure).fetch (d.delivery requests) =
      (Archive.loaded clocks loads' failure).fetch (d.delivery requests) := by
    refine Archive.fetch_congr rfl fun r hr => ?_
    have hclocks : (Archive.loaded clocks loads failure).clocks =
        (Archive.loaded clocks loads' failure).clocks := by
      rw [Archive.clocks_loaded, Archive.clocks_loaded]
    refine Archive.matching_congr hclocks (Archive.filed_loaded clocks loads failure)
      (Archive.filed_loaded clocks loads' failure) fun key time ht => ?_
    exact Archive.completedAt_eq_of_logUpTo_eq clocks h failure key
      (Std.le_trans ht (endTime_le_of_mem_delivery hr))
  rw [dispatch_eq, dispatch_eq]
  show (do
    Traced.submit requests
    let batch ← d.prepare requests
    Traced.notice (.dispatching batch.requests.length batch.clipped)
    (Archive.loaded clocks loads failure).fetch (d.delivery requests)) = _
  rw [hfetch]
  rfl

/-- The past decides every answer: whatever the archive holds of the time after the present, the
answer to a question is the same, and so is all that happens on the way, the batches that reach
the archive included. -/
theorem answer_eq_of_logUpTo_eq (d : Desk) (clocks : ZoneClocks) {loads loads' : List Load}
    (h : Load.logUpTo d.now loads = Load.logUpTo d.now loads') (failure : Option String)
    (q : Question) :
    (d.withArchive (.loaded clocks loads failure)).answer q =
      (d.withArchive (.loaded clocks loads' failure)).answer q :=
  answer_congr (dispatch_congr d clocks h failure) q

/-- A desk at the last midnight of the calendar that knows of no security and no subscription. -/
def lastMidnight : Desk where
  settings   := .usual
  catalog    := .empty
  book       := .alwaysOpen
  calendar   := .linear
  now        := ⟨.last, .midnight⟩
  archive    := .empty .exchanges
  connected  := true
  securities := .empty
  warmUp     := .initial

/-- A bar of trades in which nothing happens, complete at a second of the last day. -/
def barOfLastDay (second : Nat) : Observation :=
  .tradeBar ⟨⟨"SPY", .equity, "usa", false⟩, .first,
    ⟨.last, (TimeOfDay.ofNumbers? second 0).getD .midnight⟩, .flat .zero, .zero⟩

/-- Whether the archive holds a bar that is complete a minute later makes no difference to the
last known prices. -/
theorem answer_eq_of_later_bar :
    Load.logUpTo lastMidnight.now [⟨.minute, [barOfLastDay 0]⟩] =
        Load.logUpTo lastMidnight.now [⟨.minute, [barOfLastDay 0, barOfLastDay 60]⟩] ∧
      (lastMidnight.withArchive (.loaded .exchanges [⟨.minute, [barOfLastDay 0]⟩] none)).answer
          (.lastPrices ⟨"SPY", .equity, "usa", false⟩) =
        (lastMidnight.withArchive
          (.loaded .exchanges [⟨.minute, [barOfLastDay 0, barOfLastDay 60]⟩] none)).answer
          (.lastPrices ⟨"SPY", .equity, "usa", false⟩) :=
  ⟨by decide, answer_eq_of_logUpTo_eq lastMidnight .exchanges (by decide) none _⟩

end Desk

end MarketHistory
