import MarketHistory.Proofs.Desk.Dispatch
import MarketHistory.Proofs.Planning.Quiet

/-!
# How queries deliver their requests

`Serves d x P` says of a computation `x` at a desk `d` that the archive receives exactly the
deliveries of what is submitted, and that the result satisfies `P`. It is kept from step to step,
and holds of every step that submits nothing and delivers nothing.
-/

namespace MarketHistory

namespace Desk

variable {α β : Type} {d : Desk}

/-- The archive receives the deliveries of what is submitted and nothing else, and the result
satisfies `P`. -/
structure Serves (d : Desk) (x : Traced α) (P : α → Prop) : Prop where
  batches : x.batches = x.submissions.map d.delivery
  value   : P x.value

/-- The same of a query, whose result satisfies `P` unless it is an error. -/
def ServesQuery (d : Desk) (x : Query α) (P : α → Prop) : Prop :=
  d.Serves x.run fun result => ∀ a, result = .ok a → P a

/-! ### Steps of a computation -/

namespace Serves

lemma pure {a : α} {P : α → Prop} (h : P a) : d.Serves (Pure.pure a) P := ⟨rfl, h⟩

lemma notice (n : Notice) : d.Serves (Traced.notice n) fun _ => True := ⟨rfl, trivial⟩

/-- What submits nothing and delivers nothing serves. -/
lemma of_quiet {x : Traced α} (hx : x.Quiet) : d.Serves x fun _ => True where
  batches := by rw [hx.batches, hx.submissions, List.map_nil]
  value   := trivial

lemma bind {x : Traced α} {f : α → Traced β} {P : α → Prop} {Q : β → Prop} (hx : d.Serves x P)
    (hf : ∀ a, P a → d.Serves (f a) Q) : d.Serves (x >>= f) Q where
  batches := by
    rw [Traced.batches_bind, Traced.submissions_bind, List.map_append, hx.batches,
      (hf _ hx.value).batches]
  value := (hf _ hx.value).value

lemma ok {ε : Type} {a : α} {P : α → Prop} (h : P a) :
    d.Serves (Pure.pure (Except.ok a : Except ε α)) fun result => ∀ a, result = .ok a → P a :=
  pure fun b hb => by
    cases hb
    exact h

lemma error {ε : Type} {e : ε} {P : α → Prop} :
    d.Serves (Pure.pure (Except.error e : Except ε α)) fun result =>
      ∀ a, result = .ok a → P a :=
  pure fun _ hb => nomatch hb

end Serves

namespace ServesQuery

lemma map {x : Query α} {f : α → β} {P : α → Prop} {Q : β → Prop} (hx : d.ServesQuery x P)
    (h : ∀ a, P a → Q (f a)) : d.ServesQuery (x >>= fun a => Pure.pure (f a)) Q := by
  apply Serves.bind hx
  intro result hresult
  cases result with
  | ok a => exact Serves.ok (h a (hresult a rfl))
  | error e => exact Serves.error

/-- A computation that cannot fail, within a query. -/
lemma lift {x : Traced α} {P : α → Prop} (hx : d.Serves x P) :
    d.ServesQuery (monadLift x : Query α) P :=
  Serves.bind hx fun _ ha => Serves.ok ha

end ServesQuery

end Desk

end MarketHistory
