import MarketHistory.Proofs.Desk.Foresight
import MarketHistory.Proofs.Desk.Outcome

/-!
# Ranges in parts

A query over a part of a range returns those slices of the whole range that lie in the part
(`slicesOver_part`). Two queries over adjoining ranges therefore return, one after the other, what
a single query over both returns: nothing is lost at the cut, and nothing is returned twice.
-/

namespace MarketHistory

namespace Planner

variable (p : Planner) (scope : Scope) (explicit : Option Resolution) (overrides : Overrides)

/-- Over another range a call makes the same requests except for the range. -/
lemma requestsOf_range_eq_map (start finish start' finish' : Instant) :
    p.requestsOf ⟨scope, .range start' finish' overrides, explicit⟩ =
      (p.requestsOf ⟨scope, .range start finish overrides, explicit⟩).map
        (·.withRange start' finish') := by
  simp only [requestsOf, requests_range, List.map_map]
  cases scope <;> rfl

variable {p scope explicit overrides} in
lemma times_of_mem_requestsOf_range {start finish : Instant} {r : Request}
    (hr : r ∈ p.requestsOf ⟨scope, .range start finish overrides, explicit⟩) :
    r.startTime = start ∧ r.endTime = finish := by
  simp only [requestsOf, requests_range] at hr
  obtain ⟨e, -, rfl⟩ := List.mem_map.mp hr
  exact ⟨rfl, rfl⟩

end Planner

namespace Desk

variable (d : Desk)

lemma seenAt_withRange {clocks : ZoneClocks} {r : Request} {start finish : Instant}
    (hstart : r.startTime ≤ start) (hfinish : finish ≤ r.endTime)
    (log : List (Resolution × Observation)) (time : Instant) :
    d.seenAt clocks log time (r.withRange start finish) =
      if start < time && time ≤ finish then d.seenAt clocks log time r else [] := by
  simp only [seenAt]
  rw [Request.pick_withRange hstart hfinish,
    filter_filter_key Observation.endTime fun t => start < t && t ≤ finish]
  by_cases hpart : (start < time && time ≤ finish) = true
  · simp only [if_pos hpart]
    rfl
  · simp only [if_neg hpart, ite_self]

/-- The slices that come back for a call over a range from an archive that was loaded so. -/
def slicesOver (d : Desk) (clocks : ZoneClocks) (loads : List Load) (failure : Option String)
    (scope : Scope) (explicit : Option Resolution) (overrides : Overrides)
    (start finish : Instant) : List Slice :=
  (Archive.loaded clocks loads failure).slices
    (d.delivery (d.planner.requestsOf ⟨scope, .range start finish overrides, explicit⟩))

section Over

variable (clocks : ZoneClocks) (loads : List Load) (failure : Option String) (scope : Scope)
  (explicit : Option Resolution) (overrides : Overrides) {start middle finish : Instant}

/-- Over a part of a range the slices of that part come back. -/
lemma slicesOver_part {start' finish' : Instant} (hstart : start ≤ start')
    (hfinish : finish' ≤ finish) :
    d.slicesOver clocks loads failure scope explicit overrides start' finish' =
      (d.slicesOver clocks loads failure scope explicit overrides start finish).filter fun s =>
        start' < s.time && s.time ≤ finish' := by
  apply (Archive.tidy_slices ..).eq_of_dataAt_eq ((Archive.tidy_slices ..).filter _)
  intro time
  rw [Slice.dataAt_filter_time _ fun t => start' < t && t ≤ finish', dataAt_slices_delivery,
    dataAt_slices_delivery, Planner.requestsOf_range_eq_map _ _ _ _ start finish, List.flatMap_map]
  have hseen : ∀ r ∈ d.planner.requestsOf ⟨scope, .range start finish overrides, explicit⟩,
      d.seenAt clocks (Load.log loads) time (r.withRange start' finish') =
        if start' < time && time ≤ finish' then d.seenAt clocks (Load.log loads) time r else [] := by
    intro r hr
    obtain ⟨hfrom, hto⟩ := Planner.times_of_mem_requestsOf_range hr
    exact d.seenAt_withRange (hfrom ▸ hstart) (hto ▸ hfinish) _ time
  rw [List.flatMap_congr hseen]
  split
  · rfl
  · exact List.flatMap_eq_nil_iff.mpr fun _ _ => rfl

variable {clocks loads failure scope explicit overrides} in
/-- The slices that come back lie in the range. -/
lemma time_of_mem_slicesOver {s : Slice}
    (hs : s ∈ d.slicesOver clocks loads failure scope explicit overrides start finish) :
    start < s.time ∧ s.time ≤ finish := by
  rw [d.slicesOver_part _ _ _ _ _ _ (Std.le_refl start) (Std.le_refl finish)] at hs
  have hrange := (List.mem_filter.mp hs).2
  rw [Bool.and_eq_true, decide_eq_true_eq, decide_eq_true_eq] at hrange
  exact hrange

/-- At a cut nothing is lost and nothing is repeated. -/
lemma slicesOver_append (hstart : start ≤ middle) (hfinish : middle ≤ finish) :
    d.slicesOver clocks loads failure scope explicit overrides start middle ++
        d.slicesOver clocks loads failure scope explicit overrides middle finish =
      d.slicesOver clocks loads failure scope explicit overrides start finish := by
  have hbefore : d.slicesOver clocks loads failure scope explicit overrides start middle =
      (d.slicesOver clocks loads failure scope explicit overrides start finish).filter
        fun s => s.time ≤ middle := by
    rw [d.slicesOver_part _ _ _ _ _ _ (Std.le_refl start) hfinish]
    exact List.filter_congr fun s hs => by simp [(d.time_of_mem_slicesOver hs).1]
  have hafter : d.slicesOver clocks loads failure scope explicit overrides middle finish =
      (d.slicesOver clocks loads failure scope explicit overrides start finish).filter
        fun s => middle < s.time := by
    rw [d.slicesOver_part _ _ _ _ _ _ hstart (Std.le_refl finish)]
    exact List.filter_congr fun s hs => by simp [(d.time_of_mem_slicesOver hs).2]
  rw [hbefore, hafter]
  exact Slice.filter_le_append_filter_lt (Archive.tidy_slices ..).increasing middle

end Over

/-- Whatever the subscriptions and the log of an archive that answers, and wherever the present
lies: data over a range are the data over its first part followed by the data over the rest, slice
by slice. -/
theorem historyRange_append (d : Desk) (hconnected : d.connected = true) (clocks : ZoneClocks)
    (loads : List Load) (symbols : List Symbol) (explicit : Option Resolution) (overrides : Overrides)
    {start middle finish : Instant} (hstart : start ≤ middle) (hfinish : middle ≤ finish) :
    let answer (start finish : Instant) := ((d.withArchive (.loaded clocks loads none)).historyRange
      symbols start finish explicit overrides).run.value
    ∃ before after, answer start middle = .ok before ∧ answer middle finish = .ok after ∧
      answer start finish = .ok (before ++ after) := by
  intro answer
  have hanswer : ∀ start finish, answer start finish =
      .ok (d.slicesOver clocks loads none (.all symbols) explicit overrides start finish) :=
    fun start finish =>
      value_historyOfRequests (d := d.withArchive (.loaded clocks loads none)) hconnected rfl _
  refine ⟨_, _, hanswer start middle, hanswer middle finish, ?_⟩
  rw [hanswer, d.slicesOver_append _ _ _ _ _ _ hstart hfinish]

/-- A range that reaches a minute beyond the present, cut at the present, where a bar is complete:
the bar is in the first part. -/
theorem historyRange_append_at_present :
    let desk := lastMidnight.withArchive
      (.loaded .exchanges [⟨.minute, [barOfLastDay 0, barOfLastDay 60]⟩] none)
    let answer (start finish : Instant) := (desk.historyRange [Planner.spy] start finish
      (some .minute) .none).run.value
    answer .first desk.now = .ok [⟨desk.now, [barOfLastDay 0]⟩] ∧
      Instant.first ≤ desk.now ∧ desk.now ≤ (barOfLastDay 60).endTime ∧
      ∃ before after, answer .first desk.now = .ok before ∧
        answer desk.now (barOfLastDay 60).endTime = .ok after ∧
        answer .first (barOfLastDay 60).endTime = .ok (before ++ after) :=
  ⟨by decide +kernel, by decide, by decide,
    historyRange_append lastMidnight rfl _ _ _ _ _ (by decide) (by decide)⟩

end Desk

end MarketHistory
