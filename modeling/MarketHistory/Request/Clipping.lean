import MarketHistory.Trace.Traced

/-!
# No data from the future

Requests that reach beyond the present are cut off there before they are answered, so that a
strategy never sees what has not happened yet.
-/

namespace MarketHistory

/-- The request cut off at the present; none if it ends before. A request that lies in the future
as a whole becomes empty. -/
def Request.clip? (r : Request) (now : Instant) : Option Request :=
  if r.endTime ≤ now then none else some (r.withRange (min r.startTime now) now)

/-- The request as far as it lies in the past. -/
def Request.clip (r : Request) (now : Instant) : Request := (r.clip? now).getD r

/-- Requests that do not reach beyond the present, and how many of them were cut off. -/
structure ClippedBatch where
  requests : List Request
  clipped  : Nat
deriving DecidableEq

/-- Cuts requests off at the present. If any is cut off, one notice tells of the first. -/
def ClippedBatch.of (now : Instant) (requests : List Request) : Traced ClippedBatch :=
  match requests.filter fun r => (r.clip? now).isSome with
  | []           => pure ⟨requests, 0⟩
  | first :: late => do
    Traced.notice (.requestClipped now first)
    pure ⟨requests.map (·.clip now), late.length + 1⟩

end MarketHistory
