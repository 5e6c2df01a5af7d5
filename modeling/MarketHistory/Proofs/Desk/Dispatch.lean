import MarketHistory.Desk.Change
import MarketHistory.Proofs.Archive.Log
import MarketHistory.Proofs.Request.Clipping

/-!
# Dispatch

What happens to requests that are handed to dispatch, in one statement for each thing that can be
seen: the batch that reaches the archive (`delivery`), what is recorded, and the answer. Every
query of the desk delivers its requests in this way and looks at the archive in no other.
-/

namespace MarketHistory.Desk

/-- The desk with another archive. -/
def withArchive (d : Desk) (a : Archive) : Desk := { d with archive := a }

/-- The batch that reaches the archive when some requests are handed to dispatch. -/
def delivery (d : Desk) (requests : List Request) : List Request :=
  (requests.filter fun r => !d.securities.isUniverse r.symbol).map (·.clip d.now)

lemma requests_prepare (d : Desk) (requests : List Request) :
    (d.prepare requests).value.requests = d.delivery requests :=
  ClippedBatch.requests_of d.now _

/-- No delivered request ends after the present. -/
lemma endTime_le_of_mem_delivery {d : Desk} {requests : List Request} {r : Request}
    (hr : r ∈ d.delivery requests) : r.endTime ≤ d.now := by
  obtain ⟨r', -, rfl⟩ := List.mem_map.mp hr
  exact r'.endTime_clip_le d.now

/-- Requests handed to dispatch are recorded, and the archive fetches their delivery. -/
lemma dispatch_eq (d : Desk) (requests : List Request) :
    d.dispatch requests = (do
      Traced.submit requests
      let batch ← d.prepare requests
      Traced.notice (.dispatching batch.requests.length batch.clipped)
      d.archive.fetch (d.delivery requests)) := by
  rw [← requests_prepare]
  rfl

/-- The answer is that of the archive to the delivered batch. -/
lemma value_dispatch (d : Desk) (requests : List Request) :
    (d.dispatch requests).value = (d.archive.fetch (d.delivery requests)).value := by
  rw [dispatch_eq]
  rfl

/-- Requests handed to dispatch are recorded as submitted, once and as they are. -/
lemma submissions_dispatch (d : Desk) (requests : List Request) :
    (d.dispatch requests).submissions = [requests] := by
  have hprepare : (d.prepare requests).submissions = [] := ClippedBatch.submissions_of d.now _
  have hfetch : (d.archive.fetch (d.delivery requests)).submissions = [] := by
    simp only [Archive.fetch]
    cases d.archive.failure <;> rfl
  rw [dispatch_eq, Traced.submissions_bind, Traced.submissions_bind, Traced.submissions_bind,
    hprepare, hfetch]
  rfl

/-- The archive receives one batch, also if it fails to answer it. -/
lemma batches_dispatch (d : Desk) (requests : List Request) :
    (d.dispatch requests).batches = [d.delivery requests] := by
  have hprepare : (d.prepare requests).batches = [] := ClippedBatch.batches_of d.now _
  have hfetch : (d.archive.fetch (d.delivery requests)).batches = [d.delivery requests] := by
    simp only [Archive.fetch]
    cases d.archive.failure <;> rfl
  rw [dispatch_eq, Traced.batches_bind, Traced.batches_bind, Traced.batches_bind, hprepare, hfetch]
  rfl

end MarketHistory.Desk
