import MarketHistory.Proofs.Request.Clipping
import Mathlib.Data.List.Forall2

/-!
# Batches clipped once and twice

Of a batch that is clipped, every request is left with its part up to the present
(`Request.cutAt_clip`), in its place, and a single notice tells of the first that was cut off.
Clipping at two times, in either order, is clipping at the earlier of them (`Request.clip_clip`).
-/

namespace MarketHistory

namespace Request

/-! ### One request -/

/-- The request `s` is the part of `r` up to the present: `r` itself if it ends by then, and
otherwise `r` with an end at the present and a start no later. -/
structure CutAt (now : Instant) (r s : Request) : Prop where
  past   : r.endTime ≤ now → s = r
  future : now < r.endTime → s = { r with startTime := min r.startTime now, endTime := now }

lemma cutAt_clip (r : Request) (now : Instant) : r.CutAt now (r.clip now) where
  past   := clip_of_le
  future := fun h => clip_of_not_le (Std.not_le.mpr h)

lemma isSome_clip?_iff {r : Request} {now : Instant} :
    (r.clip? now).isSome = true ↔ now < r.endTime := by
  rw [clip?, ← Std.not_le]
  by_cases h : r.endTime ≤ now <;> simp [h]

/-- What is clipped at a time needs no clipping at a later one. -/
lemma clip_clip_of_le (r : Request) {a b : Instant} (h : b ≤ a) :
    (r.clip b).clip a = r.clip b :=
  clip_of_le (Std.le_trans (endTime_clip_le r b) h)

/-- What is clipped at a time does not need it if it is clipped at an earlier one as well. -/
lemma clip_clip_of_lt (r : Request) {a b : Instant} (h : a < b) :
    (r.clip b).clip a = r.clip a := by
  by_cases hb : r.endTime ≤ b
  · rw [clip_of_le hb]
  · have hb : b < r.endTime := Std.not_le.mp hb
    have ha : ¬r.endTime ≤ a := Std.not_le.mpr (Std.lt_trans h hb)
    rw [clip_of_not_le (Std.not_le.mpr hb), clip_of_not_le ha, clip_of_not_le (Std.not_le.mpr h)]
    -- the start is cut off at the later time first, which leaves no trace
    have hstart : min (min r.startTime b) a = min r.startTime a := by
      have hassoc : min (min r.startTime b) a = min r.startTime (min b a) :=
        Std.Associative.assoc _ _ _
      rw [hassoc, Std.min_eq_if (a := b), if_neg (Std.not_le.mpr h)]
    exact congrArg (r.withRange · a) hstart

/-- Clipping at two times is clipping at the earlier of them. -/
lemma clip_clip (r : Request) (a b : Instant) : (r.clip b).clip a = r.clip (min a b) := by
  rw [Std.min_eq_if]
  split
  next hab =>
    by_cases hba : b ≤ a
    · rw [Std.le_antisymm hab hba, r.clip_clip_of_le (Std.le_refl b)]
    · exact r.clip_clip_of_lt (Std.not_le.mp hba)
  next hab => exact r.clip_clip_of_le (Std.le_of_lt (Std.not_le.mp hab))

end Request

/-! ### Batches -/

namespace ClippedBatch

variable (now : Instant) (requests : List Request)

/-- Requests are cut off that end after the present. -/
lemma filter_isSome_clip? :
    (requests.filter fun r => (r.clip? now).isSome) =
      requests.filter fun r => now < r.endTime :=
  List.filter_congr fun _ _ =>
    Bool.eq_iff_iff.mpr (Request.isSome_clip?_iff.trans decide_eq_true_iff.symm)

lemma clipped_of :
    (of now requests).value.clipped = requests.countP fun r => now < r.endTime := by
  rw [List.countP_eq_length_filter, ← filter_isSome_clip?, of]
  cases requests.filter fun r => (r.clip? now).isSome <;> rfl

/-- The first request that is cut off is told, and no other. -/
lemma events_of :
    (of now requests).events = (requests.find? fun r => now < r.endTime).toList.map fun r =>
      .noticed (.requestClipped now r) := by
  rw [← List.head?_filter, ← filter_isSome_clip?, of]
  cases requests.filter fun r => (r.clip? now).isSome <;> rfl

lemma requests_of_of (a b : Instant) :
    (of a (of b requests).value.requests).value.requests =
      requests.map (·.clip (min a b)) := by
  rw [requests_of, requests_of, List.map_map]
  exact List.map_congr_left fun r _ => r.clip_clip a b

/-- There is a notice exactly if something is cut off. -/
lemma length_events_of :
    (of now requests).events.length = if 0 < (of now requests).value.clipped then 1 else 0 := by
  rw [events_of, clipped_of, List.length_map]
  cases hfind : requests.find? fun r => now < r.endTime with
  | none =>
    have hcount : (requests.countP fun r => now < r.endTime) = 0 :=
      List.countP_eq_zero.mpr fun r hr => List.find?_eq_none.mp hfind r hr
    rw [hcount]
    rfl
  | some r =>
    have hlate := List.find?_some hfind
    have hcount : 0 < requests.countP fun r => now < r.endTime :=
      List.countP_pos_iff.mpr ⟨r, List.mem_of_find?_eq_some hfind, hlate⟩
    rw [if_pos hcount]
    rfl

/-- Clipping a batch at a time `b` and then at a time `a` leaves the requests that clipping at the
earlier of the two leaves; so clipping again changes nothing, and the order does not matter. Each
request of a batch is left with its part up to the present, in its place; the count of those cut off
is that of the requests that end after the present; and if there are any, a single notice tells of
the first, otherwise none is given. -/
theorem clipping_laws (a b : Instant) (requests : List Request) :
    let clipped (now : Instant) (requests : List Request) := (of now requests).value.requests
    clipped a (clipped b requests) = clipped (min a b) requests ∧
    clipped a (clipped a requests) = clipped a requests ∧
    clipped a (clipped b requests) = clipped b (clipped a requests) ∧
    List.Forall₂ (Request.CutAt a) requests (clipped a requests) ∧
    (of a requests).value.clipped = (requests.countP fun r => a < r.endTime) ∧
    (of a requests).events = ((requests.find? fun r => a < r.endTime).toList.map fun r =>
      .noticed (.requestClipped a r)) ∧
    (of a requests).events.length = if 0 < (of a requests).value.clipped then 1 else 0 := by
  intro clipped
  refine ⟨?_, ?_, ?_, ?_, clipped_of a requests, events_of a requests,
    length_events_of a requests⟩
  · show (of a (of b requests).value.requests).value.requests = (of (min a b) requests).value.requests
    rw [requests_of_of, requests_of]
  · show (of a (of a requests).value.requests).value.requests = (of a requests).value.requests
    rw [requests_of_of, requests_of, Std.min_self]
  · show (of a (of b requests).value.requests).value.requests =
      (of b (of a requests).value.requests).value.requests
    have hcomm : min a b = min b a := Std.Commutative.comm a b
    rw [requests_of_of, requests_of_of, hcomm]
  · show List.Forall₂ (Request.CutAt a) requests (of a requests).value.requests
    rw [requests_of, List.forall₂_map_right_iff, List.forall₂_same]
    exact fun r _ => r.cutAt_clip a

end ClippedBatch

end MarketHistory
