import MarketHistory.Proofs.Desk.Foresight
import MarketHistory.Proofs.Desk.Reached
import MarketHistory.Proofs.Desk.Submitted
import MarketHistory.Proofs.Subscription.Narrowing

/-!
# Quotes of shares

Hourly and daily data of shares are trades only. Wherever the resolution of what is asked for is
known beforehand, by the caller, for bars of trades or for last known prices, this is kept: no
request for a share is for its quotes if that resolution is hourly or daily
(`not_quote_of_hour_or_daily`), whether there is a subscription or one is made up. Nothing else that
is subscribed gets lost on the way.
-/

namespace MarketHistory

namespace Planner

/-- All requests of a call with an explicit resolution are for data that exist at it. -/
lemma existsAt_of_mem_requests {p : Planner} (h : p.resolver.catalog.Filed) {scope : Scope}
    {reach : Reach} {resolution : Resolution} {r : Request}
    (hr : r ∈ p.requests scope reach (some resolution)) :
    r.tickType.ExistsAt r.symbol.securityType resolution := by
  obtain ⟨e, he, rfl⟩ := exists_of_mem_requests hr
  obtain ⟨requested, hs⟩ := Resolver.exists_mem_resolve_of_mem_serving he
  have hexists : e.2.tickType.ExistsAt e.1.securityType resolution :=
    Resolver.existsAt_of_mem_resolve hs
  rw [← Resolver.symbol_of_mem_serving h he] at hexists
  exact hexists

/-- A call for all data of a symbol at an explicit resolution makes a request for each subscription
to data that exist at it, other than open interest. -/
lemma requestFor_mem_requests {p : Planner} {symbol : Symbol} (hcanonical : symbol.canonical = false)
    (reach : Reach) {resolution : Resolution} (htick : resolution ≠ .tick) {s : Subscription}
    (hs : s ∈ p.resolver.catalog.subscriptionsOf symbol)
    (hexists : s.tickType.ExistsAt symbol.securityType resolution)
    (htype : s.dataType ≠ .openInterest) :
    p.requestFor (.all [symbol]) reach (some resolution) symbol s ∈
      p.requests (.all [symbol]) reach (some resolution) := by
  have hfits : s.Fits symbol .base (some resolution) :=
    ⟨htype, fun _ hsome => Option.some.inj hsome ▸ hexists⟩
  rw [p.requests_all_singleton hcanonical (Reach.refuses_some reach htick)]
  apply List.mem_map_of_mem
  exact Resolver.mem_resolve_of_mem_fitting (List.mem_filter.mpr ⟨hs, decide_eq_true hfits⟩)

end Planner

namespace Desk

variable {d : Desk}

/-- Last known prices are looked for with requests for data that exist at the resolution of the look
back. -/
lemma existsAt_of_mem_barRequests (h : d.catalog.Filed) {symbol : Symbol} {periods : Nat}
    {resolution : Resolution} {r : Request} (hr : r ∈ d.barRequests symbol periods resolution) :
    r.unfilled.tickType.ExistsAt r.unfilled.symbol.securityType resolution := by
  show r.tickType.ExistsAt r.symbol.securityType resolution
  rw [barRequests, Planner.requestsOf] at hr
  exact Planner.existsAt_of_mem_requests h hr

/-- All that is submitted for a question is for data that exist at the resolution that the question
fixes. -/
lemma submits_existsAt (h : d.catalog.Filed) {q : Question} {resolution : Resolution}
    (hfixed : d.fixedResolution? q = some resolution) :
    (d.answer q).run.Submits fun r => r.tickType.ExistsAt r.symbol.securityType resolution := by
  have hcalls {c : Except InvalidRequest Call} (hc : d.call? q = some c) :
      (d.answer q).run.Submits fun r =>
        r.tickType.ExistsAt r.symbol.securityType resolution := by
    refine (answer_cases hc).submits fun call hcall r hr => ?_
    subst hcall
    rw [Planner.requestsOf, (scope_explicit_of_call? hc).2, hfixed] at hr
    exact Planner.existsAt_of_mem_requests h hr
  cases q with
  | requests requests => cases hfixed
  | lastPrices symbol =>
    cases hfixed
    exact submits_answer_lastPrices fun _ _ => existsAt_of_mem_barRequests h
  | lastPrice symbol =>
    cases hfixed
    exact submits_answer_lastPrice fun _ _ => existsAt_of_mem_barRequests h
  | _ => exact hcalls rfl

/-- At every desk that comes about by changes, whatever the tick types of its catalog: no request
for a share is for quotes if it is made in a call of the planner with an hourly or daily resolution,
or is submitted for a question that fixes such a resolution; and all other subscriptions of a symbol,
but for open interest, lead to requests of a call for its data at such a resolution. -/
theorem not_quote_of_hour_or_daily (d : Desk) (changes : List Change) {resolution : Resolution}
    (h : resolution = .hour ∨ resolution = .daily) :
    let desk := d.blank.afterAll changes
    (∀ scope reach, ∀ r ∈ desk.planner.requests scope reach (some resolution),
      r.symbol.securityType = .equity → r.tickType ≠ .quote) ∧
    (∀ q, desk.fixedResolution? q = some resolution →
      ∀ requests ∈ (desk.answer q).run.submissions, ∀ r ∈ requests,
        r.symbol.securityType = .equity → r.tickType ≠ .quote) ∧
    ∀ symbol reach, symbol.canonical = false → ∀ s ∈ desk.catalog.subscriptionsOf symbol,
      s.tickType ≠ .quote → s.dataType ≠ .openInterest →
        ∃ r ∈ desk.planner.requests (.all [symbol]) reach (some resolution),
          r.symbol = symbol ∧ r.resolution = resolution ∧ r.dataType = s.dataType ∧
            r.tickType = s.tickType := by
  intro desk
  have hfiled : desk.catalog.Filed := (consistent_afterAll d changes).catalog
  refine ⟨?_, ?_, ?_⟩
  · intro scope reach r hr hequity
    exact Planner.existsAt_of_mem_requests (p := desk.planner) hfiled hr hequity h
  · intro q hfixed requests hrequests r hr hequity
    exact (submits_existsAt hfiled hfixed).all requests hrequests r hr hequity h
  · intro symbol reach hcanonical s hs hquote htype
    have htick : resolution ≠ .tick := by rcases h with rfl | rfl <;> decide
    refine ⟨_, Planner.requestFor_mem_requests (p := desk.planner) hcanonical reach htick hs
      (fun _ _ => hquote) htype, hfiled symbol s hs, ?_, rfl, rfl⟩
    cases reach <;> rfl

/-- With a subscription to hourly quotes of a share only, a question about its hourly data asks for
its trades. -/
theorem not_quote_of_hour_spy :
    let desk := lastMidnight.blank.afterAll [.subscribe (.of Planner.spy .hour .quote .utc)]
    let q : Question := .range [Planner.spy] .first desk.now (some .hour) .none
    desk.fixedResolution? q = some .hour ∧
    (∃ requests ∈ (desk.answer q).run.submissions, ∃ r ∈ requests,
      r.symbol.securityType = .equity) ∧
    ∀ requests ∈ (desk.answer q).run.submissions, ∀ r ∈ requests,
      r.symbol.securityType = .equity → r.tickType ≠ .quote :=
  ⟨rfl, by decide +kernel, (not_quote_of_hour_or_daily lastMidnight _ (.inl rfl)).2.1 _ rfl⟩

end Desk

end MarketHistory
