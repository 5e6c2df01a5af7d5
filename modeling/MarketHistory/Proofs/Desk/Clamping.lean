import MarketHistory.Proofs.Desk.Foresight
import MarketHistory.Proofs.Desk.Answers
import MarketHistory.Proofs.Planning.Calls
import Mathlib.Data.List.Forall2

/-!
# Requests that start in the future

What lies in the future as a whole should reach the archive as an empty request at the present.
Requests are clipped where they end after the present, whatever their start; one that starts in the
future but ends by the present is delivered as it is. These are the only requests that reach the
archive with a time after the present (`clamped_answer_iff`).
-/

namespace MarketHistory

/-! ### One request -/

namespace Request

/-- The request `s` is what should reach the archive for `r`: it has no time after the present, and
both are the present if `r` starts in the future. -/
structure Clamped (now : Instant) (r s : Request) : Prop where
  start_le  : s.startTime ≤ now
  finish_le : s.endTime ≤ now
  collapsed : now < r.startTime → s.startTime = now ∧ s.endTime = now

/-- The request starts in the future and ends by the present. -/
def RunsBack (now : Instant) (r : Request) : Prop := r.endTime ≤ now ∧ now < r.startTime

instance (now : Instant) (r : Request) : Decidable (r.RunsBack now) :=
  inferInstanceAs (Decidable (_ ∧ _))

/-- A clipped request is as it should be unless it runs back over the present. -/
lemma clamped_clip_iff (now : Instant) (r : Request) :
    Clamped now r (r.clip now) ↔ ¬r.RunsBack now := by
  by_cases hfinish : r.endTime ≤ now
  · rw [clip_of_le hfinish]
    constructor
    · rintro h ⟨-, hstart⟩
      exact Std.not_le.mpr hstart h.start_le
    · intro h
      have hstart : r.startTime ≤ now := Std.not_lt.mp fun hstart => h ⟨hfinish, hstart⟩
      exact ⟨hstart, hfinish, fun hlt => absurd hstart (Std.not_le.mpr hlt)⟩
  · rw [clip_of_not_le hfinish]
    refine iff_of_true ⟨?_, Std.le_refl now, ?_⟩ fun h => hfinish h.1
    · exact Std.min_le_right
    · intro hstart
      have hmin : now ≤ min r.startTime now :=
        Std.le_min_iff.mpr ⟨Std.le_of_lt hstart, Std.le_refl now⟩
      exact ⟨Std.le_antisymm Std.min_le_right hmin, rfl⟩

end Request

namespace Desk

/-! ### Whole deliveries -/

/-- Every request of the batch is what should reach the archive for the request at its place, where
those for placeholders of universes are left out. -/
def Clamped (d : Desk) (requests batch : List Request) : Prop :=
  List.Forall₂ (Request.Clamped d.now)
    (requests.filter fun r => !d.securities.isUniverse r.symbol) batch

lemma clamped_delivery_iff (d : Desk) (requests : List Request) :
    d.Clamped requests (d.delivery requests) ↔
      ∀ r ∈ requests, d.securities.isUniverse r.symbol = false → ¬r.RunsBack d.now := by
  simp only [Clamped, delivery]
  rw [List.forall₂_map_right_iff, List.forall₂_same]
  simp only [Request.clamped_clip_iff, List.mem_filter, Bool.not_eq_true', and_imp]

/-- Whatever is asked, and whatever requests are submitted to answer it: each of them that starts in
the future reaches the archive as an empty request at the present, and nothing that reaches the
archive has a time after the present, exactly if no request that is submitted for a symbol other
than the placeholder of a universe starts in the future and ends by the present. -/
theorem clamped_answer_iff (d : Desk) (clocks : ZoneClocks) (loads : List Load)
    (failure : Option String) (q : Question) :
    let asked := ((d.withArchive (.loaded clocks loads failure)).answer q).run
    List.Forall₂ d.Clamped asked.submissions asked.batches ↔
      ∀ requests ∈ asked.submissions, ∀ r ∈ requests,
        d.securities.isUniverse r.symbol = false → ¬r.RunsBack d.now := by
  intro asked
  have hserves := serves_answer (d := d.withArchive (.loaded clocks loads failure))
    (Archive.filed_loaded clocks loads failure) q
  have hbatches : asked.batches = asked.submissions.map d.delivery := hserves.batches
  rw [hbatches, List.forall₂_map_right_iff, List.forall₂_same]
  exact forall₂_congr fun requests _ => d.clamped_delivery_iff requests

/-! ### A range that runs back over the present -/

/-- A desk in the afternoon of a day that knows of no security and no subscription. -/
def inAfternoon : Desk := { lastMidnight with now := Planner.afternoon }

/-- A query for a range from the last day of the calendar back to the first one is delivered as it
is, with a start after the present. -/
theorem not_clamped_range :
    let asked := (inAfternoon.answer
      (.range [Planner.spy] lastMidnight.now .first none .none)).run
    ∃ batch ∈ asked.batches, ∃ r ∈ batch, inAfternoon.now < r.startTime := by
  decide +kernel

end Desk

end MarketHistory
