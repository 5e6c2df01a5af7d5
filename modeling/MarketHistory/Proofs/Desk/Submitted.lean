import MarketHistory.Proofs.Desk.Lookback

/-!
# What is submitted on the way

A condition on requests that holds of all that are submitted on the way to a result, and the rules
to establish it along a computation. Of last known prices it is enough to know it of the requests for
bars from which the looks are made (`submits_lastKnownPrices`).
-/

namespace MarketHistory

namespace Traced

variable {α β : Type} {P : Request → Prop}

/-- All requests that are submitted on the way to the result satisfy `P`. -/
structure Submits (P : Request → Prop) (x : Traced α) : Prop where
  all : ∀ requests ∈ x.submissions, ∀ r ∈ requests, P r

lemma Quiet.submits {x : Traced α} (hx : x.Quiet) : x.Submits P where
  all := by
    intro requests hrequests
    rw [hx.submissions] at hrequests
    cases hrequests

lemma Submits.bind {x : Traced α} {f : α → Traced β} (hx : x.Submits P)
    (hf : (f x.value).Submits P) : (x >>= f).Submits P where
  all := by
    intro requests hrequests
    rw [submissions_bind] at hrequests
    rcases List.mem_append.mp hrequests with hrequests | hrequests
    · exact hx.all requests hrequests
    · exact hf.all requests hrequests

lemma Submits.map {x : Traced α} (hx : x.Submits P) (f : α → β) :
    (x >>= fun a => pure (f a)).Submits P :=
  hx.bind (Quiet.pure _).submits

/-- A computation that cannot fail, within a query. -/
lemma Submits.lift {x : Traced α} (hx : x.Submits P) : (monadLift x : Query α).run.Submits P :=
  hx.map _

end Traced

namespace Desk

variable {d : Desk} {P : Request → Prop} {symbol : Symbol}

lemma submits_dispatch {requests : List Request} (h : ∀ r ∈ requests, P r) :
    (d.dispatch requests).Submits P where
  all := by
    intro requests' hrequests'
    rw [submissions_dispatch] at hrequests'
    rw [List.mem_singleton.mp hrequests']
    exact h

/-- What holds of all requests of a call holds of those that a query by way of the call submits. -/
lemma By.submits {α : Type} {x : Query α} {c : Except InvalidRequest Call} {read : List Slice → α}
    (h : d.By x c read) (hcalls : ∀ call, c = .ok call → ∀ r ∈ d.planner.requestsOf call, P r) :
    x.run.Submits P where
  all := by
    intro requests hrequests r hr
    obtain ⟨-, call, hcall, r', hr', rfl⟩ :=
      (h.exists_submitted_iff (P := (· = r))).mp ⟨requests, hrequests, r, hr, rfl⟩
    exact hcalls call hcall r' hr'

/-! ### Last known prices -/

/-- A look submits requests for bars, without filling of gaps. -/
lemma submits_lookForLatest {periods : Nat} {resolution : Resolution}
    (h : ∀ r ∈ d.barRequests symbol periods resolution, P r.unfilled) (found : LatestByType) :
    (d.lookForLatest symbol periods resolution found).Submits P := by
  unfold lookForLatest
  split
  · exact ((Traced.Quiet.notice _).map _).submits
  next plan hplan =>
    have hplanned : plan.all.value = d.barRequests symbol periods resolution := by
      simp only [barRequests, Planner.requestsOf, Planner.requests, hplan, Planner.planned]
    apply (Planner.quiet_bars hplan).submits.bind
    dsimp only
    split
    · exact (Traced.Quiet.pure _).submits
    · refine (submits_dispatch ?_).bind (Traced.Quiet.submits ?_)
      · intro r hr
        obtain ⟨r', hr', rfl⟩ := List.mem_map.mp hr
        have hmem := (List.mem_filter.mp hr').1
        rw [hplanned] at hmem
        exact h r' hmem
      · split
        · exact (Traced.Quiet.notice _).map _
        · exact Traced.Quiet.pure _

variable (h : ∀ periods, ∀ r ∈ d.barRequests symbol periods (d.lookbackResolution symbol),
  P r.unfilled)

include h

lemma submits_latestByType : (d.latestByType symbol).Submits P := by
  unfold latestByType
  split
  · exact (Traced.Quiet.pure _).submits
  · apply (submits_lookForLatest (h _) _).bind
    dsimp only
    split
    · exact (Traced.Quiet.pure _).submits
    · apply (Traced.Quiet.notice _).submits.bind
      exact (submits_lookForLatest (h _) _).bind (Traced.Quiet.pure _).submits

/-- What holds of all requests for bars of a symbol, without filling of gaps, holds of those that are
submitted for its last known prices. -/
lemma submits_lastKnownPrices : (d.lastKnownPrices symbol).Submits P :=
  (submits_latestByType h).map _

lemma submits_answer_lastPrices : (d.answer (.lastPrices symbol)).run.Submits P :=
  (submits_lastKnownPrices h).lift.bind (Traced.Quiet.pure _).submits

lemma submits_answer_lastPrice : (d.answer (.lastPrice symbol)).run.Submits P :=
  ((submits_lastKnownPrices h).map _).lift.bind (Traced.Quiet.pure _).submits

end Desk

end MarketHistory
