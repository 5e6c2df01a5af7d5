import MarketHistory.Proofs.Archive.Slices
import MarketHistory.Proofs.Desk.Calls
import MarketHistory.Proofs.Desk.Reached

/-!
# Outcomes of queries

What a query returns, error included. A query for data of several symbols has the outcome of one
call (`value_historyRange`, `value_historyPeriods`, `value_typedHistory`; all of them in
`value_answer`); a query for one type of data of one symbol answers one request, if there is one
(`value_historyOf`). At a desk that answers, what comes back is read off the log of what was loaded
(`dataAt_slices_delivery`).
-/

namespace MarketHistory

namespace Desk

variable (d : Desk)

/-! ### Queries for several symbols -/

lemma value_map {α β : Type} (x : Query α) (f : α → β) :
    (x >>= fun a => pure (f a)).run.value = x.run.value.map f := by
  rw [run_bind, Traced.value_bind]
  cases x.run.value <;> rfl

/-- The slices that come back for a call for data of several symbols, or why there are none: the
window cannot be told, ticks would be counted as bars, or the archive does not answer. -/
def outcome (d : Desk) (c : Except InvalidRequest Call) : Except QueryError (List Slice) :=
  match c with
  | .error e => .error (.invalidRequest e)
  | .ok call =>
    if call.reach.refuses call.explicit then .error (.invalidRequest .tickPeriods)
    else (d.historyOfRequests (d.planner.requestsOf call)).value

lemma value_historyRange (symbols : List Symbol) (start finish : Instant)
    (explicit : Option Resolution) (overrides : Overrides) :
    (d.historyRange symbols start finish explicit overrides).run.value =
      d.outcome (.ok ⟨.all symbols, .range start finish overrides, explicit⟩) := rfl

lemma value_historySpan (symbols : List Symbol) (length : Span) (explicit : Option Resolution) :
    (d.historySpan symbols length explicit).run.value =
      d.outcome ((d.reach? (.span length)).map fun reach => ⟨.all symbols, reach, explicit⟩) := by
  simp only [historySpan, reach?]
  cases spanStart d.now length <;> rfl

lemma value_historyPeriods (symbols : List Symbol) (count : Nat) (explicit : Option Resolution) :
    (d.historyPeriods symbols count explicit).run.value =
      d.outcome (.ok ⟨.all symbols, .bars count d.now, explicit⟩) := by
  simp only [historyPeriods, outcome, Reach.refuses, decide_eq_true_eq, Planner.requestsOf,
    Planner.requests, Planner.bars]
  split <;> rfl

/-- The outcome of the plan for data of one type. -/
lemma value_historyPlan_typedPlan (symbols : List Symbol) (requested : DataType) (window : Window)
    (explicit : Option Resolution) :
    (Query.ofInvalid (d.typedPlan symbols requested window explicit) >>= d.historyPlan).run.value =
      d.outcome ((d.reach? window).map fun reach =>
        ⟨.each symbols requested, reach, explicit⟩) := by
  cases window with
  | span length =>
    simp only [typedPlan, reach?]
    cases spanStart d.now length <;> rfl
  | periods count =>
    simp only [typedPlan, reach?, Planner.typedBarsPlan, outcome, Except.map, Reach.refuses,
      decide_eq_true_eq, Planner.requestsOf, Planner.requests]
    split <;> rfl
  | range start finish => rfl

lemma value_typedHistory (symbols : List Symbol) (requested : DataType) (window : Window)
    (explicit : Option Resolution) :
    (d.typedHistory symbols requested window explicit).run.value =
      (d.outcome ((d.reach? window).map fun reach =>
        ⟨.each symbols requested, reach, explicit⟩)).map (Slice.restrict · requested) := by
  simp only [typedHistory]
  rw [← bind_assoc, value_map, value_historyPlan_typedPlan]

lemma value_warmUpHistory : d.warmUpHistory.run.value = d.outcome d.warmUpCall? := by
  simp only [warmUpHistory, warmUpRequests]
  rw [bind_assoc]
  simp only [warmUpPlan, warmUpCall?, reach?]
  cases d.warmUp.spec with
  | none => rfl
  | some spec =>
    cases spec with
    | bars count explicit => exact d.value_historyPeriods d.knownSymbols count explicit
    | span length explicit =>
      dsimp only
      cases spanStart d.now length <;> rfl

lemma value_tradeBars (symbol : Symbol) (window : Window) (explicit : Option Resolution) :
    (d.tradeBars symbol window explicit).run.value =
      (d.outcome (d.barCall? symbol window explicit)).map fun slices =>
        (Slice.project slices symbol .tradeBar).filterMap Observation.tradeBar? := by
  let resolution := d.resolver.effectiveResolution symbol explicit
  let read (slices : List Slice) : List TradeBar :=
    (Slice.project slices symbol .tradeBar).filterMap Observation.tradeBar?
  -- what follows the report on symbols without trades
  have hbars : (do
      if resolution.isTick then throw (.invalidRequest .tickTradeBars)
      let range ← d.barRange symbol window resolution
      let slices ← d.historyRange [symbol] range.1 range.2 (some resolution) .none
      return read slices : Query (List TradeBar)).run.value =
      (d.outcome (d.barCall? symbol window explicit)).map read := by
    simp only [barCall?]
    split
    · rfl
    · obtain ⟨start, finish, hvalue, hreach⟩ | ⟨e, hvalue, hreach⟩ :=
        barRange_cases (d := d) symbol window resolution
      · rw [hreach, run_bind, Traced.value_bind, hvalue]
        exact value_map _ _
      · rw [hreach, run_bind, Traced.value_bind, hvalue]
        rfl
  simp only [tradeBars]
  split
  · exact hbars
  · exact hbars

/-- The answer to a question that is answered by a call for several symbols. -/
lemma value_answer {q : Question} {c : Except InvalidRequest Call} (h : d.call? q = some c)
    (hseveral : q.isOfType = false) : (d.answer q).run.value = (d.outcome c).map q.read := by
  cases q with
  | requests requests => cases h
  | span symbols length explicit =>
    cases h
    exact (value_map _ _).trans (congrArg (Except.map _) (d.value_historySpan ..))
  | periods symbols count explicit =>
    cases h
    exact (value_map _ _).trans (congrArg (Except.map _) (d.value_historyPeriods ..))
  | range symbols start finish explicit overrides =>
    cases h
    exact (value_map _ _).trans (congrArg (Except.map _) (d.value_historyRange ..))
  | ofType symbol requested window explicit => cases hseveral
  | typed symbols requested window explicit =>
    cases h
    refine (value_map _ _).trans ?_
    rw [d.value_typedHistory]
    generalize d.outcome _ = result
    cases result <;> rfl
  | tradeBars symbol window explicit =>
    cases h
    refine (value_map _ _).trans ?_
    rw [d.value_tradeBars]
    cases d.outcome (d.barCall? symbol window explicit) <;> rfl
  | warmUp =>
    cases h
    exact (value_map _ _).trans (congrArg (Except.map _) d.value_warmUpHistory)
  | lastPrices symbol => cases h
  | lastPrice symbol => cases h

/-! ### Queries for one type of data of one symbol -/

lemma value_historyOf (symbol : Symbol) (requested : DataType) (window : Window)
    (explicit : Option Resolution) :
    (d.historyOf symbol requested window explicit).run.value =
      (d.requestOf symbol requested window explicit).run.value.bind fun request =>
        (d.historyOfRequests [request]).value.map (Slice.project · symbol requested) := by
  simp only [historyOf]
  rw [run_bind, Traced.value_bind]
  cases (d.requestOf symbol requested window explicit).run.value with
  | ok request => exact value_map ..
  | error e => rfl

/-! ### What the archive returns -/

lemma value_historyOfRequests_eq (requests : List Request) :
    (d.historyOfRequests requests).value =
      if d.connected then
        match d.archive.failure with
        | some reason => .error (.provider reason)
        | none        => .ok (d.archive.slices (d.delivery requests))
      else .error .noProvider := by
  simp only [historyOfRequests]
  split
  · rw [value_dispatch, Archive.fetch]
    cases d.archive.failure <;> rfl
  · rfl

lemma batches_historyOfRequests (requests : List Request) :
    (d.historyOfRequests requests).batches =
      if d.connected then [d.delivery requests] else [] := by
  simp only [historyOfRequests]
  split
  · exact batches_dispatch d requests
  · rfl

variable {d} in
/-- Requests are answered if they reach the archive and it does not fail. -/
lemma value_historyOfRequests (hconnected : d.connected = true)
    (hfailure : d.archive.failure = none) (requests : List Request) :
    (d.historyOfRequests requests).value = .ok (d.archive.slices (d.delivery requests)) := by
  rw [value_historyOfRequests_eq, if_pos hconnected, hfailure]

/-- Either every list of requests is answered or none is. -/
lemma value_historyOfRequests_cases :
    (∃ e, ∀ requests, (d.historyOfRequests requests).value = .error e) ∨
      ∀ requests, (d.historyOfRequests requests).value =
        .ok (d.archive.slices (d.delivery requests)) := by
  by_cases hconnected : d.connected = true
  · cases hfailure : d.archive.failure with
    | some reason =>
      refine .inl ⟨.provider reason, fun requests => ?_⟩
      rw [value_historyOfRequests_eq, if_pos hconnected, hfailure]
    | none => exact .inr (value_historyOfRequests hconnected hfailure)
  · refine .inl ⟨.noProvider, fun requests => ?_⟩
    rw [value_historyOfRequests_eq, if_neg hconnected]

/-- What a request gets of a log at a time: nothing if it is for the placeholder of a universe, and
nothing of the time after the present. -/
def seenAt (d : Desk) (clocks : ZoneClocks) (log : List (Resolution × Observation))
    (time : Instant) (r : Request) : List Observation :=
  if !d.securities.isUniverse r.symbol && time ≤ d.now then
    (r.pick clocks log).filter (·.endTime = time)
  else []

/-- At every time the slices that come back hold what each request gets of the log. -/
lemma dataAt_slices_delivery (clocks : ZoneClocks) (loads : List Load) (failure : Option String)
    (requests : List Request) (time : Instant) :
    Slice.dataAt ((Archive.loaded clocks loads failure).slices (d.delivery requests)) time =
      requests.flatMap (d.seenAt clocks (Load.log loads) time) := by
  have hseen : ∀ r, d.seenAt clocks (Load.log loads) time r =
      if !d.securities.isUniverse r.symbol then
        ((r.clip d.now).pick clocks (Load.log loads)).filter (·.endTime = time)
      else [] := by
    intro r
    rw [Request.pick_clip, filter_filter_key Observation.endTime (· ≤ d.now)]
    by_cases huniverse : d.securities.isUniverse r.symbol <;> simp [seenAt, huniverse]
  rw [Archive.dataAt_slices_loaded, delivery, List.flatMap_map]
  induction requests with
  | nil => rfl
  | cons r requests ih =>
    rw [List.flatMap_cons, ← ih, hseen, List.filter_cons]
    split <;> rfl

/-- Nothing that a request gets is about another symbol. -/
lemma symbol_of_mem_seenAt {clocks : ZoneClocks} {log : List (Resolution × Observation)}
    {time : Instant} {r : Request} {o : Observation} (ho : o ∈ d.seenAt clocks log time r) : o.symbol = r.symbol := by
  simp only [seenAt] at ho
  split at ho
  · exact Request.symbol_of_mem_pick (List.mem_filter.mp ho).1
  · cases ho

end Desk

end MarketHistory
