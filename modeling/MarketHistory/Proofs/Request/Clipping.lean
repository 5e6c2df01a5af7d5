import MarketHistory.Request.Clipping
import Mathlib.Tactic.Lemma

/-!
# Clipped requests

Clipping a request changes at most its two times, and it then ends by the present. A batch is
clipped request by request, in order.
-/

namespace MarketHistory

namespace Request

/-- The same request except for the range of time. -/
def EqUpToRange (r s : Request) : Prop := s = r.withRange s.startTime s.endTime

lemma clip_of_le {r : Request} {now : Instant} (h : r.endTime ≤ now) : r.clip now = r := by
  rw [clip, clip?, if_pos h, Option.getD_none]

lemma clip_of_not_le {r : Request} {now : Instant} (h : ¬r.endTime ≤ now) :
    r.clip now = r.withRange (min r.startTime now) now := by
  rw [clip, clip?, if_neg h, Option.getD_some]

lemma eqUpToRange_clip (r : Request) (now : Instant) : r.EqUpToRange (r.clip now) := by
  by_cases h : r.endTime ≤ now
  · rw [clip_of_le h]
    rfl
  · rw [clip_of_not_le h]
    rfl

/-- A clipped request ends by the present. -/
lemma endTime_clip_le (r : Request) (now : Instant) : (r.clip now).endTime ≤ now := by
  by_cases h : r.endTime ≤ now
  · rwa [clip_of_le h]
  · rw [clip_of_not_le h]
    exact Std.le_refl now

end Request

namespace ClippedBatch

/-- Every request of a batch is clipped, in place. -/
lemma requests_of (now : Instant) (requests : List Request) :
    (of now requests).value.requests = requests.map (·.clip now) := by
  simp only [of]
  split
  next h =>
    -- nothing ends after the present, so that clipping changes nothing
    rw [List.filter_eq_nil_iff] at h
    have hclip : requests.map (·.clip now) = requests.map id := by
      apply List.map_congr_left
      intro r hr
      have hr := h r hr
      rw [Option.not_isSome_iff_eq_none] at hr
      rw [Request.clip, hr, Option.getD_none, id]
    rw [hclip, List.map_id]
    rfl
  next => rfl

@[simp]
lemma submissions_of (now : Instant) (requests : List Request) :
    (of now requests).submissions = [] := by
  simp only [of]
  split <;> rfl

@[simp]
lemma batches_of (now : Instant) (requests : List Request) : (of now requests).batches = [] := by
  simp only [of]
  split <;> rfl

end ClippedBatch

end MarketHistory
