import MarketHistory.Desk.Query
import Mathlib.Tactic.Lemma

/-!
# Planning is quiet

Planners report notices and ask the calendar, but they submit no requests and deliver none: the
requests that they make are their result. So do the steps of a desk's queries up to the point at
which requests are handed over.
-/

namespace MarketHistory

namespace Traced

variable {α β : Type}

instance : LawfulMonad Traced :=
  LawfulMonad.mk' Traced
    (fun x => congrArg (Traced.mk x.value) (List.append_nil x.events))
    (fun _ _ => rfl)
    (fun x f g => congrArg (Traced.mk _) (List.append_assoc x.events _ _))

@[simp]
lemma batches_map (f : α → β) (x : Traced α) : (f <$> x).batches = x.batches :=
  (batches_bind x _).trans (List.append_nil _)

/-- Nothing is submitted and nothing delivered on the way to the result. -/
structure Quiet (x : Traced α) : Prop where
  submissions : x.submissions = []
  batches     : x.batches = []

namespace Quiet

lemma pure (a : α) : Quiet (Pure.pure a) := ⟨rfl, rfl⟩

lemma notice (n : Notice) : (Traced.notice n).Quiet := ⟨rfl, rfl⟩

lemma ask (q : BarCountQuery) : (Traced.ask q).Quiet := ⟨rfl, rfl⟩

/-- Only the step that is taken has to be quiet. -/
lemma bind_value {x : Traced α} {f : α → Traced β} (hx : x.Quiet) (hf : (f x.value).Quiet) :
    (x >>= f).Quiet where
  submissions := by rw [submissions_bind, hx.submissions, hf.submissions, List.nil_append]
  batches     := by rw [batches_bind, hx.batches, hf.batches, List.nil_append]

lemma bind {x : Traced α} {f : α → Traced β} (hx : x.Quiet) (hf : ∀ a, (f a).Quiet) :
    (x >>= f).Quiet :=
  hx.bind_value (hf x.value)

lemma map {x : Traced α} (hx : x.Quiet) (f : α → β) : (x >>= fun a => Pure.pure (f a)).Quiet :=
  hx.bind fun _ => pure _

end Quiet

end Traced

open Traced

/-! ### Subscriptions -/

namespace Resolver

variable (r : Resolver) (symbol : Symbol) (requested : DataType) (explicit : Option Resolution)

lemma quiet_resolve : (r.resolve symbol requested explicit).Quiet := by
  simp only [resolve]
  split
  · exact (Quiet.notice _).map _
  · exact Quiet.pure _

lemma quiet_resolveFirst? : (r.resolveFirst? symbol requested explicit).Quiet :=
  (quiet_resolve ..).map _

lemma quiet_resolveOne : (r.resolveOne symbol requested explicit).Quiet := by
  apply (quiet_resolveFirst? ..).bind
  intro found
  cases found with
  | some s => exact Quiet.pure _
  | none => exact (quiet_resolveFirst? ..).map _

end Resolver

/-! ### Plans -/

/-- A plan is quiet if the steps for all symbols are. -/
lemma Plan.quiet_all {f : Symbol → Traced (List Request)} (h : ∀ symbol, (f symbol).Quiet)
    (symbols : List Symbol) : (Plan.all (symbols.map f)).Quiet := by
  induction symbols with
  | nil => exact Quiet.pure _
  | cons symbol symbols ih => exact (h symbol).bind fun _ => ih.map _

namespace Planner

variable (p : Planner) (symbol : Symbol) (symbols : List Symbol) (requested : DataType)
  (periods : Nat) (start finish : Instant) (explicit : Option Resolution)

lemma quiet_startOfBars (resolution : Resolution) (zone : TimeZone) :
    (p.startOfBars symbol periods resolution zone finish).Quiet :=
  (Quiet.ask _).bind fun _ => (Quiet.notice _).map _

lemma quiet_startForPeriods : (p.startForPeriods symbol periods explicit finish).Quiet := by
  simp only [startForPeriods]
  split
  · exact Quiet.pure _
  · exact (quiet_startOfBars ..).map _

lemma quiet_range (overrides : Overrides) :
    (p.range symbols start finish explicit overrides).all.Quiet :=
  Plan.quiet_all (fun _ => (Resolver.quiet_resolve ..).map _) _

lemma quiet_symbolBars : (p.symbolBars symbol periods explicit finish).Quiet := by
  apply (Resolver.quiet_resolve ..).bind
  intro found
  cases found with
  | nil => exact Quiet.pure _
  | cons first rest => exact (quiet_startOfBars ..).map _

variable {p symbols periods explicit finish} in
lemma quiet_bars {plan : Plan} (h : p.bars symbols periods explicit finish = .ok plan) :
    plan.all.Quiet := by
  simp only [bars] at h
  split at h
  · cases h
  · cases h
    exact Plan.quiet_all (fun _ => quiet_symbolBars ..) _

lemma quiet_typedRange : (p.typedRange symbol requested start finish explicit).Quiet := by
  apply (Resolver.quiet_resolveOne ..).bind
  intro found
  cases found <;> exact Quiet.pure _

lemma quiet_subscriptionBars (s : Subscription) :
    (p.subscriptionBars symbol s periods explicit finish).Quiet :=
  (quiet_startOfBars ..).map _

lemma quiet_typedBars : (p.typedBars symbol requested periods explicit finish).Quiet := by
  simp only [typedBars]
  split
  · exact Quiet.pure _
  · apply (Resolver.quiet_resolveOne ..).bind
    intro found
    cases found with
    | error e => exact Quiet.pure _
    | ok s => exact (quiet_subscriptionBars ..).map _

lemma quiet_primary? : (p.primary? symbol requested explicit).Quiet := by
  apply (Resolver.quiet_resolveFirst? ..).bind
  intro found
  cases found with
  | none => exact (Quiet.notice _).map _
  | some s => exact Quiet.pure _

lemma quiet_typedRanges : (p.typedRanges symbols requested start finish explicit).all.Quiet := by
  apply Plan.quiet_all
  intro symbol
  apply (quiet_primary? ..).bind
  intro found
  cases found <;> exact Quiet.pure _

variable {p symbols requested periods explicit finish} in
lemma quiet_typedBarsPlan {plan : Plan}
    (h : p.typedBarsPlan symbols requested periods explicit finish = .ok plan) :
    plan.all.Quiet := by
  simp only [typedBarsPlan] at h
  split at h
  · cases h
  · cases h
    apply Plan.quiet_all
    intro symbol
    apply (quiet_primary? ..).bind
    intro found
    cases found with
    | none => exact Quiet.pure _
    | some s => exact (quiet_subscriptionBars ..).map _

end Planner

/-! ### Queries -/

namespace Query

variable {α β : Type}

lemma quiet_pure (a : α) : (pure a : Query α).run.Quiet := Quiet.pure _

lemma quiet_throw (e : QueryError) : (throw e : Query α).run.Quiet := Quiet.pure _

lemma quiet_bind {x : Query α} {f : α → Query β} (hx : x.run.Quiet)
    (hf : ∀ a, (f a).run.Quiet) : (x >>= f).run.Quiet := by
  apply hx.bind
  intro result
  cases result with
  | ok a => exact hf a
  | error e => exact quiet_throw e

lemma quiet_lift {x : Traced α} (hx : x.Quiet) : (monadLift x : Query α).run.Quiet := hx.map _

lemma quiet_ofInvalid (x : Except InvalidRequest α) : (ofInvalid x).run.Quiet := by
  cases x with
  | ok a => exact quiet_pure a
  | error e => exact quiet_throw _

lemma quiet_ofTraced {x : Traced (Except InvalidRequest α)} (hx : x.Quiet) :
    (ofTraced x).run.Quiet :=
  quiet_bind (quiet_lift hx) quiet_ofInvalid

end Query

namespace Desk

variable (d : Desk) (symbol : Symbol) (window : Window)

lemma quiet_requestOf (requested : DataType) (explicit : Option Resolution) :
    (d.requestOf symbol requested window explicit).run.Quiet := by
  cases window with
  | span length =>
    exact Query.quiet_bind (Query.quiet_ofInvalid _) fun _ =>
      Query.quiet_ofTraced (Planner.quiet_typedRange ..)
  | periods count => exact Query.quiet_ofTraced (Planner.quiet_typedBars ..)
  | range start finish => exact Query.quiet_ofTraced (Planner.quiet_typedRange ..)

lemma quiet_barRange (resolution : Resolution) :
    (d.barRange symbol window resolution).run.Quiet := by
  cases window with
  | span length =>
    exact Query.quiet_bind (Query.quiet_ofInvalid _) fun _ => Query.quiet_pure _
  | periods count =>
    exact Query.quiet_bind (Query.quiet_ofTraced (Planner.quiet_startForPeriods ..)) fun _ =>
      Query.quiet_pure _
  | range start finish => exact Query.quiet_pure _

end Desk

end MarketHistory
