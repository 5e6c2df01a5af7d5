import MarketHistory.Proofs.Desk.Answers
import Mathlib.Data.List.Forall2

/-!
# Whole runs

A run is a sequence of changes and questions in any order. Its transcript tells for every action at
which desk it was taken and what came of it. What dispatch guarantees for one action holds along
every run: batch by batch, the archive receives what was submitted, without placeholders and cut
off at the present of that moment, and nothing that is returned was complete only later
(`transcript_delivered`).
-/

namespace MarketHistory

/-- What can be done at a desk: it is changed, or it is asked. -/
inductive Action where
  | change (change : Change)
  | ask (question : Question)

/-- The outcome of an action, which holds the observations it returned, and the desk at which it was
taken. -/
structure Moment where
  desk    : Desk
  outcome : Traced (List Observation)

namespace Desk

/-- What comes of an action; only answers hold observations. -/
def take (d : Desk) : Action → Traced (List Observation)
  | .change c => do
    let _ ← d.change? c
    return []
  | .ask q    => do
    match ← (d.answer q).run with
    | .ok a    => return a.observationList
    | .error _ => return []

/-- The desk after an action; questions leave it as it is. -/
def next (d : Desk) : Action → Desk
  | .change c => d.after c
  | .ask _    => d

/-- What happens in a run, action by action. -/
def transcript : Desk → List Action → List Moment
  | _, []                => []
  | d, action :: actions => ⟨d, d.take action⟩ :: transcript (d.next action) actions

/-- The batch holds, in order, the requests that are not for the placeholder of a universe, each
as it is except for its range of time, and ending by the present. -/
def Delivered (d : Desk) (requests batch : List Request) : Prop :=
  List.Forall₂ (fun r s => r.EqUpToRange s ∧ s.endTime ≤ d.now)
    (requests.filter fun r => !d.securities.isUniverse r.symbol) batch

end Desk

/-- The requests that were submitted in a moment, each time with the desk of the moment. -/
def Moment.submitted (m : Moment) : List (Desk × List Request) :=
  m.outcome.submissions.map fun requests => (m.desk, requests)

namespace Desk

variable {d : Desk}

/-! ### One action -/

lemma delivered_delivery (d : Desk) (requests : List Request) :
    d.Delivered requests (d.delivery requests) := by
  simp only [Delivered, delivery]
  rw [List.forall₂_map_right_iff, List.forall₂_same]
  exact fun r _ => ⟨r.eqUpToRange_clip d.now, r.endTime_clip_le d.now⟩

lemma serves_add (c : Catalog) (s : Subscription) : d.Serves (c.add s) fun _ => True := by
  simp only [Catalog.add]
  split
  · exact Serves.pure trivial
  · exact Serves.bind (Serves.notice _) fun _ _ => Serves.pure trivial

lemma serves_load (hd : d.archive.Filed) (resolution : Resolution) (os : List Observation) :
    d.Serves (d.archive.load resolution os) Archive.Filed :=
  Serves.bind (Serves.notice _) fun _ _ => Serves.pure (hd.load resolution os)

lemma serves_set (w : WarmUp) (spec : WarmUpSpec) : d.Serves (w.set spec) fun _ => True := by
  simp only [WarmUp.set]
  split
  · exact Serves.pure trivial
  · exact Serves.bind (Serves.notice _) fun _ _ => Serves.pure trivial

lemma serves_lock (w : WarmUp) : d.Serves w.lock fun _ => True := by
  simp only [WarmUp.lock]
  split
  · exact Serves.pure trivial
  · exact Serves.bind (Serves.notice _) fun _ _ => Serves.pure trivial

lemma serves_finish (w : WarmUp) : d.Serves w.finish fun _ => True := by
  have hnotify (count : Nat) : d.Serves (Traced.notifyAll count) fun _ => True := by
    constructor
    · simp [Traced.batches, Traced.submissions, Traced.notifyAll]
    · trivial
  simp only [WarmUp.finish]
  split
  · exact Serves.bind (Serves.notice _) fun _ _ =>
      Serves.bind (hnotify _) fun _ _ => Serves.pure trivial
  · exact Serves.pure trivial

/-- Changes reach no archive, and none puts an observation where it does not belong. -/
lemma serves_change? (hd : d.archive.Filed) (c : Change) :
    d.Serves (d.change? c) fun result => ∀ d', result = .ok d' → d'.archive.Filed := by
  cases c with
  | setClock now => exact Serves.ok hd
  | advanceClock span =>
    simp only [change?]
    split
    · exact Serves.ok hd
    · exact Serves.error
  | addSecurity symbol => exact Serves.ok hd
  | addSecurityWithHours symbol hours => exact Serves.ok hd
  | removeSecurity symbol => exact Serves.ok hd
  | addUniverse symbol => exact Serves.ok hd
  | subscribe subscription => exact Serves.bind (serves_add d.catalog _) fun _ _ => Serves.ok hd
  | unsubscribe symbol => exact Serves.ok hd
  | load resolution observations =>
    exact Serves.bind (serves_load hd ..) fun _ ha => Serves.ok ha
  | setFailure reason => exact Serves.ok hd
  | setWarmUp spec =>
    apply Serves.bind (serves_set d.warmUp spec)
    intro result _
    cases result with
    | ok warmUp => exact Serves.ok hd
    | error e => exact Serves.error
  | lockWarmUp => exact Serves.bind (serves_lock d.warmUp) fun _ _ => Serves.ok hd
  | observeWarmUp => exact Serves.ok hd
  | finishWarmUp => exact Serves.bind (serves_finish d.warmUp) fun _ _ => Serves.ok hd

/-- What one action guarantees. -/
lemma serves_take (hd : d.archive.Filed) (action : Action) :
    d.Serves (d.take action) (Past d.now) := by
  have hnothing : Past d.now [] := fun _ ho => nomatch ho
  cases action with
  | change c => exact Serves.bind (serves_change? hd c) fun _ _ => Serves.pure hnothing
  | ask q =>
    apply Serves.bind (serves_answer hd q)
    intro result hresult
    cases result with
    | ok a => exact Serves.pure (hresult a rfl)
    | error e => exact Serves.pure hnothing

/-! ### Runs -/

lemma filed_next (hd : d.archive.Filed) (action : Action) : (d.next action).archive.Filed := by
  cases action with
  | change c =>
    have hchange := (serves_change? hd c).value
    show (d.after c).archive.Filed
    simp only [after]
    cases hresult : (d.change? c).value with
    | ok d' => exact hchange d' hresult
    | error e => exact hd
  | ask q => exact hd

/-- Every moment of a run keeps what one action guarantees. -/
lemma serves_of_mem_transcript {actions : List Action} (hd : d.archive.Filed) :
    ∀ m ∈ d.transcript actions, m.desk.Serves m.outcome (Past m.desk.now) := by
  induction actions generalizing d with
  | nil => exact fun _ hm => nomatch hm
  | cons action actions ih =>
    intro m hm
    rcases List.mem_cons.mp hm with rfl | hm
    · exact serves_take hd action
    · exact ih (filed_next hd action) m hm

/-- In every run, whatever the order of changes and questions: the batches that reach the archive
are those that are submitted, one by one and in order, without the requests for placeholders of
universes, each request as it is except for its range of time and ending by the present of its
moment; and no observation that is returned is complete only after the present of its moment. -/
theorem transcript_delivered (d : Desk) (clocks : ZoneClocks) (loads : List Load)
    (failure : Option String) (actions : List Action) :
    let run := (d.withArchive (.loaded clocks loads failure)).transcript actions
    List.Forall₂ (fun submitted batch => submitted.1.Delivered submitted.2 batch)
        (run.flatMap Moment.submitted) (run.flatMap (·.outcome.batches)) ∧
      ∀ m ∈ run, ∀ o ∈ m.outcome.value, o.endTime ≤ m.desk.now := by
  intro run
  have hserves : ∀ m ∈ run, m.desk.Serves m.outcome (Past m.desk.now) :=
    serves_of_mem_transcript (Archive.filed_loaded clocks loads failure)
  constructor
  · have hmoment : ∀ m ∈ run, List.Forall₂
        (fun submitted batch => submitted.1.Delivered submitted.2 batch)
        m.submitted m.outcome.batches := by
      intro m hm
      rw [(hserves m hm).batches, Moment.submitted, List.forall₂_map_left_iff,
        List.forall₂_map_right_iff, List.forall₂_same]
      exact fun requests _ => m.desk.delivered_delivery requests
    have hself : List.Forall₂ (fun m m' => m = m' ∧ m ∈ run) run run :=
      List.forall₂_same.mpr fun m hm => ⟨rfl, hm⟩
    refine List.rel_flatMap hself ?_
    rintro m _ ⟨rfl, hm⟩
    exact hmoment m hm
  · exact fun m hm => (hserves m hm).value

end Desk

end MarketHistory
