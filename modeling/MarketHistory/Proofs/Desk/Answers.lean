import MarketHistory.Proofs.Desk.Calls
import MarketHistory.Proofs.Desk.Serves
import MarketHistory.Proofs.Desk.Sources

/-!
# What questions deliver and answer

Dispatch serves, and so does every question: the archive receives the deliveries of what is
submitted on the way to an answer and nothing else, and no answer holds an observation that is
complete only after the present (`serves_answer`).
-/

namespace MarketHistory

/-- No observation is complete only after `now`. -/
def Past (now : Instant) (os : List Observation) : Prop := ∀ o ∈ os, o.endTime ≤ now

lemma Past.mono {now : Instant} {os os' : List Observation} (h : Past now os)
    (hsub : ∀ o ∈ os', o ∈ os) : Past now os' :=
  fun o ho => h o (hsub o ho)

/-- No observation in slices is complete only after `now`. -/
abbrev PastSlices (now : Instant) (slices : List Slice) : Prop :=
  Past now (slices.flatMap Slice.data)

/-- The observations that are read off slices for a question are among those of the slices. -/
lemma Question.sublist_read (q : Question) (slices : List Slice) :
    (q.read slices).observationList.Sublist (slices.flatMap Slice.data) := by
  cases q with
  | ofType symbol requested window explicit => exact Slice.sublist_project ..
  | typed symbols requested window explicit => exact Slice.sublist_restrict ..
  | tradeBars symbol window explicit =>
    exact (Observation.sublist_tradeBars _).trans (Slice.sublist_project ..)
  | _ => exact List.Sublist.refl _

namespace Desk

variable {d : Desk}

/-! ### Dispatch -/

/-- Delivered requests are answered with the past. -/
lemma pastSlices_delivery (hd : d.archive.Filed) (requests : List Request) :
    PastSlices d.now (d.archive.slices (d.delivery requests)) := by
  intro o ho
  obtain ⟨s, hs, ho⟩ := List.mem_flatMap.mp ho
  obtain ⟨r, hr, ho⟩ := Archive.exists_mem_matching_of_mem_slices hs ho
  exact Std.le_trans (hd.mem_matching ho).2 (endTime_le_of_mem_delivery hr)

lemma serves_dispatch (hd : d.archive.Filed) (requests : List Request) :
    d.Serves (d.dispatch requests) fun result =>
      ∀ slices, result = .ok slices → PastSlices d.now slices where
  batches := by
    rw [batches_dispatch, submissions_dispatch]
    rfl
  value := by
    intro slices hslices
    rw [value_dispatch, Archive.fetch] at hslices
    cases hfailure : d.archive.failure with
    | some reason =>
      rw [hfailure] at hslices
      cases hslices
    | none =>
      rw [hfailure] at hslices
      cases hslices
      exact pastSlices_delivery hd requests

lemma serves_historyOfRequests (hd : d.archive.Filed) (requests : List Request) :
    d.Serves (d.historyOfRequests requests) fun result =>
      ∀ slices, result = .ok slices → PastSlices d.now slices := by
  simp only [historyOfRequests]
  split
  · exact serves_dispatch hd requests
  · exact Serves.error

/-! ### Queries by way of a call -/

/-- A query by way of a call serves, if what it reads off slices of the past is as required. -/
lemma By.serves {α : Type} {x : Query α} {c : Except InvalidRequest Call}
    {read : List Slice → α} (h : d.By x c read) (hd : d.archive.Filed) {P : α → Prop}
    (hread : ∀ slices, PastSlices d.now slices → P (read slices)) : d.ServesQuery x P := by
  cases h with
  | accepted call hcall haccepts hasks =>
    have hrequests := serves_historyOfRequests hd (d.planner.requestsOf call)
    refine ⟨?_, fun a ha => ?_⟩
    · rw [hasks.batches, hasks.submissions]
      exact hrequests.batches
    · rw [hasks.value] at ha
      cases hvalue : (d.historyOfRequests (d.planner.requestsOf call)).value with
      | ok slices =>
        rw [hvalue] at ha
        cases ha
        exact hread slices (hrequests.value slices hvalue)
      | error e =>
        rw [hvalue] at ha
        cases ha
  | refused hcall hrefuses =>
    obtain ⟨e, he⟩ := hrefuses.value
    refine ⟨(Serves.of_quiet hrefuses.quiet).batches, fun a ha => ?_⟩
    rw [he] at ha
    cases ha

/-! ### Last known prices -/

lemma serves_lookForLatest (hd : d.archive.Filed) (symbol : Symbol) (periods : Nat)
    (resolution : Resolution) {found : LatestByType} (h : Past d.now found.observations) :
    d.Serves (d.lookForLatest symbol periods resolution found) fun result =>
      Past d.now result.2.observations := by
  unfold lookForLatest
  split
  · exact Serves.bind (Serves.notice _) fun _ _ => Serves.pure h
  next plan hplan =>
    apply Serves.bind (Serves.of_quiet (Planner.quiet_bars hplan))
    intro planned _
    dsimp only
    split
    · exact Serves.pure h
    · apply Serves.bind (serves_dispatch hd _)
      intro answer hanswer
      cases answer with
      | error e => exact Serves.bind (Serves.notice _) fun _ _ => Serves.pure h
      | ok slices =>
        apply Serves.pure
        intro o ho
        rcases LatestByType.mem_observations_putSlices ho with ho | ho
        · exact h o ho
        · exact hanswer slices rfl o ho

lemma serves_latestByType (hd : d.archive.Filed) (symbol : Symbol) :
    d.Serves (d.latestByType symbol) fun found => Past d.now found.observations := by
  have hnothing : Past d.now (LatestByType.observations []) := fun _ ho => nomatch ho
  unfold latestByType
  split
  · exact Serves.pure hnothing
  · apply Serves.bind (serves_lookForLatest hd symbol _ _ hnothing)
    intro first hfirst
    dsimp only
    split
    · exact Serves.pure hfirst
    · apply Serves.bind (Serves.notice _)
      intro _ _
      exact Serves.bind (serves_lookForLatest hd symbol _ _ hfirst) fun _ hsecond =>
        Serves.pure hsecond

lemma serves_lastKnownPrices (hd : d.archive.Filed) (symbol : Symbol) :
    d.Serves (d.lastKnownPrices symbol) (Past d.now) :=
  Serves.bind (serves_latestByType hd symbol) fun _ hfound =>
    Serves.pure (hfound.mono fun _ => Observation.mem_arrange.mp)

lemma serves_lastKnownPrice? (hd : d.archive.Filed) (symbol : Symbol) :
    d.Serves (d.lastKnownPrice? symbol) fun price => Past d.now price.toList :=
  Serves.bind (serves_lastKnownPrices hd symbol) fun _ hprices =>
    Serves.pure (hprices.mono fun _ ho =>
      Observation.mem_of_primary? (Option.mem_toList.mp ho))

/-! ### Questions -/

/-- Every question is served: the archive receives the deliveries of what is submitted on the way
to the answer, and no observation in the answer is complete only after the present. -/
lemma serves_answer (hd : d.archive.Filed) (q : Question) :
    d.ServesQuery (d.answer q) fun a => Past d.now a.observationList := by
  have hread (q : Question) (slices : List Slice) (h : PastSlices d.now slices) :
      Past d.now (q.read slices).observationList :=
    h.mono fun _ ho => (q.sublist_read slices).subset ho
  cases q with
  | requests requests =>
    have hrequests : d.ServesQuery (d.historyRequests requests) (PastSlices d.now) :=
      serves_historyOfRequests hd requests
    exact hrequests.map fun _ h => h
  | lastPrices symbol =>
    exact (ServesQuery.lift (serves_lastKnownPrices hd symbol)).map fun _ h => h
  | lastPrice symbol =>
    exact (ServesQuery.lift (serves_lastKnownPrice? hd symbol)).map fun _ h => h
  | _ => exact (answer_cases rfl).serves hd (hread _)

end Desk

end MarketHistory
