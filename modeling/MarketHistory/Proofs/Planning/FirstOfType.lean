import MarketHistory.Proofs.Planning.BarStart
import MarketHistory.Proofs.Subscription.Narrowing

/-!
# The first request of a type

A call for one type of data of a symbol asks for what a call for all its data asks for first of
that type, if there is any (`typed_eq_first`): over a range, and for bars at an explicit resolution
unless their start depends on the time zone of the data. If a call for all data asks for none of the
type, the call for the type can still succeed, as something may be made up for it.
-/

namespace MarketHistory

namespace Planner

variable {p : Planner} {symbol : Symbol} {requested : DataType} {reach : Reach}
  {explicit : Option Resolution} {q : Request}

/-- If a subscription leads to the same request whether all data are asked for or one type, the
request for the type is the first of that type. -/
lemma requestOne?_of_find?
    (hsame : ∀ s, p.requestFor (.one symbol requested) reach explicit symbol s =
      p.requestFor (.all [symbol]) reach explicit symbol s)
    (hq : (p.requests (.all [symbol]) reach explicit).find? (requested.accepts ·.dataType) =
      some q) :
    p.requestOne? symbol requested reach explicit = .ok q := by
  cases hrefuses : reach.refuses explicit with
  | true =>
    rw [requests_eq, if_pos hrefuses] at hq
    cases hq
  | false =>
    cases hcanonical : symbol.canonical with
    | true =>
      rw [p.requests_all_of_canonical hcanonical] at hq
      cases hq
    | false =>
      rw [p.requests_all_singleton hcanonical hrefuses, List.find?_map] at hq
      obtain ⟨s, hs, rfl⟩ := Option.map_eq_some_iff.mp hq
      rw [requestOne?, hrefuses, Resolver.head?_resolve_of_find? hs, ← hsame]
      rfl

/-- If a call for all data of a symbol asks for data of a type, a call for that type succeeds with
the first such request: over a range, whether or not a resolution is given; and for a number of bars
at an explicit resolution, if the calendar ignores the time zone of the data. -/
theorem typed_eq_first (p : Planner) (symbol : Symbol) (requested : DataType) (q : Request) :
    (∀ start finish explicit,
      (p.range [symbol] start finish explicit .none).all.value.find?
        (requested.accepts ·.dataType) = some q →
      (p.typedRange symbol requested start finish explicit).value = .ok q) ∧
    (p.calendar.IgnoresZone → ∀ periods resolution finish plan,
      p.bars [symbol] periods (some resolution) finish = .ok plan →
      plan.all.value.find? (requested.accepts ·.dataType) = some q →
      (p.typedBars symbol requested periods (some resolution) finish).value = .ok q) := by
  constructor
  · intro start finish explicit hq
    rw [p.value_typedRange symbol requested explicit start finish .none]
    exact requestOne?_of_find? (fun _ => rfl) hq
  · intro hzone periods resolution finish plan hplan hq
    have hplanned : p.requests (.all [symbol]) (.bars periods finish) (some resolution) =
        plan.all.value := by
      rw [requests, hplan]
      rfl
    rw [← hplanned] at hq
    rw [value_typedBars]
    refine requestOne?_of_find? (fun s => ?_) hq
    rw [requestFor, requestFor, startFor_bars hzone _ _ _ _ _ s.dataTimeZone,
      startFor_bars hzone _ _ _ _ _ s.dataTimeZone]
    rfl

/-! ### Quotes of a share without subscriptions -/

/-- A planner that knows of no subscription and no security. -/
def unsubscribed : Planner where
  resolver := ⟨.empty, .alwaysOpen, .empty, Settings.usual.defaults⟩
  calendar := .linear

/-- All data of a share are its trades and its quotes; a call for quotes makes the request for
quotes among them. -/
theorem typed_eq_first_unsubscribed :
    (∃ q, (unsubscribed.range [spy] .first afternoon none .none).all.value.find?
        (DataType.quoteBar.accepts ·.dataType) = some q ∧
      (unsubscribed.typedRange spy .quoteBar .first afternoon none).value = .ok q) ∧
    unsubscribed.calendar.IgnoresZone ∧
    ∃ plan q, unsubscribed.bars [spy] 5 (some .minute) afternoon = .ok plan ∧
      plan.all.value.find? (DataType.quoteBar.accepts ·.dataType) = some q ∧
      (unsubscribed.typedBars spy .quoteBar 5 (some .minute) afternoon).value = .ok q := by
  have hrange : ((unsubscribed.range [spy] .first afternoon none .none).all.value.find?
      (DataType.quoteBar.accepts ·.dataType)).isSome = true := by decide +kernel
  obtain ⟨q, hq⟩ := Option.isSome_iff_exists.mp hrange
  obtain ⟨plan, hplan⟩ : ∃ plan, unsubscribed.bars [spy] 5 (some .minute) afternoon = .ok plan :=
    ⟨_, rfl⟩
  have hbars : (plan.all.value.find? (DataType.quoteBar.accepts ·.dataType)).isSome = true := by
    cases hplan
    decide +kernel
  obtain ⟨q', hq'⟩ := Option.isSome_iff_exists.mp hbars
  have hzone : unsubscribed.calendar.IgnoresZone := Calendar.ignoresZone_linear
  refine ⟨⟨q, hq, ?_⟩, hzone, plan, q', hplan, hq', ?_⟩
  · exact (typed_eq_first unsubscribed spy .quoteBar q).1 _ _ _ hq
  · exact (typed_eq_first unsubscribed spy .quoteBar q').2 hzone _ _ _ _ hplan hq'

end Planner

end MarketHistory
