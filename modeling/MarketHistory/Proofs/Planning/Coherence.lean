import MarketHistory.Proofs.Planning.Calls

/-!
# Requests whose data type fits their resolution

The data type of a usual subscription follows from its tick type and its resolution. A request
takes the data type of its subscription, but its resolution may be given by the call; it is
coherent only as long as that does not lead from ticks to bars or back (`coherent_requests_iff`).
-/

namespace MarketHistory

/-- The data type follows from the tick type and the resolution. -/
def Request.Coherent (r : Request) : Prop :=
  r.dataType = .ofTickType r.tickType r.resolution.isTick

instance (r : Request) : Decidable r.Coherent :=
  inferInstanceAs (Decidable (r.dataType = _))

/-- The data type follows from the tick type and the resolution. -/
def Subscription.Coherent (s : Subscription) : Prop :=
  s.dataType = .ofTickType s.tickType s.resolution.isTick

/-- Only ticks and bars of trades or quotes differ in their data type. -/
lemma DataType.ofTickType_eq_iff {t : TickType} {a b : Bool} :
    ofTickType t a = ofTickType t b ↔ t = .openInterest ∨ a = b := by
  cases t <;> cases a <;> cases b <;> decide

/-! ### Subscriptions -/

lemma Subscription.coherent_of (symbol : Symbol) (resolution : Resolution) (tickType : TickType)
    (zone : TimeZone) : (of symbol resolution tickType zone).Coherent := rfl

namespace Catalog

/-- All subscriptions are coherent. -/
def Coherent (c : Catalog) : Prop := ∀ symbol, ∀ s ∈ c.subscriptionsOf symbol, s.Coherent

lemma coherent_empty : empty.Coherent := fun _ _ hs => nomatch hs

lemma Coherent.add {c : Catalog} (h : c.Coherent) {s : Subscription} (hs : s.Coherent) :
    (c.add s).value.Coherent := by
  simp only [Catalog.add]
  split
  · exact h
  · intro symbol s' hs'
    change s' ∈ ((c.subscriptions.push s.symbol s).get? symbol).getD [] at hs'
    rw [SortedMap.get?_push] at hs'
    split at hs'
    · rcases List.mem_append.mp hs' with hs' | hs'
      · exact h s.symbol s' hs'
      · rw [List.mem_singleton.mp hs']
        exact hs
    · exact h symbol s' hs'

end Catalog

namespace Resolver

/-- Made-up subscriptions are coherent. -/
lemma coherent_of_mem_synthesized {r : Resolver} {symbol : Symbol} {requested : DataType}
    {explicit : Option Resolution} {s : Subscription}
    (hs : s ∈ r.synthesized symbol requested explicit) : s.Coherent := by
  obtain ⟨k, hk, rfl⟩ := List.mem_map.mp hs
  have hdefault := (List.mem_filter.mp hk).1
  simp only [Catalog.defaultsOf, DataType.defaults] at hdefault
  split at hdefault
  · cases hdefault
  · obtain ⟨t, -, rfl⟩ := List.mem_map.mp hdefault
    rfl

/-- Subscriptions that serve a request are coherent if those of the catalog are. -/
lemma coherent_of_mem_resolve {r : Resolver} (h : r.catalog.Coherent) {symbol : Symbol}
    {requested : DataType} {explicit : Option Resolution} {s : Subscription}
    (hs : s ∈ (r.resolve symbol requested explicit).value) : s.Coherent := by
  simp only [resolve] at hs
  split at hs
  · exact coherent_of_mem_synthesized hs
  · have hsorted := (List.mem_filter.mp hs).1
    exact h symbol s (List.mem_mergeSort.mp hsorted)

lemma coherent_of_mem_serving {r : Resolver} (h : r.catalog.Coherent) {scope : Scope}
    {explicit : Option Resolution} {e : Symbol × Subscription}
    (he : e ∈ r.serving scope explicit) : e.2.Coherent := by
  obtain ⟨requested, hs⟩ := exists_mem_resolve_of_mem_serving he
  exact coherent_of_mem_resolve h hs

end Resolver

/-! ### Requests -/

namespace Planner

/-- The request for a coherent subscription is coherent if it does not turn ticks into bars or bars
into ticks. -/
lemma coherent_requestFor_iff (p : Planner) (scope : Scope) (reach : Reach)
    (explicit : Option Resolution) (symbol : Symbol) {s : Subscription} (hs : s.Coherent) :
    (p.requestFor scope reach explicit symbol s).Coherent ↔
      s.tickType = .openInterest ∨
        s.resolution.isTick = (p.resolutionFor scope reach explicit symbol s).isTick := by
  rw [← DataType.ofTickType_eq_iff, ← hs]
  rfl

/-- With a coherent catalog, all requests of a call are coherent exactly if the call is refused or
each subscription that serves it has ticks where the request asks for ticks and bars where it asks
for bars; open interest comes in one form only. -/
theorem coherent_requests_iff (p : Planner) (h : p.resolver.catalog.Coherent) (scope : Scope)
    (reach : Reach) (explicit : Option Resolution) :
    (∀ r ∈ p.requests scope reach explicit, r.Coherent) ↔
      reach.refuses explicit ∨ ∀ e ∈ p.resolver.serving scope explicit,
        e.2.tickType = .openInterest ∨
          e.2.resolution.isTick = (p.resolutionFor scope reach explicit e.1 e.2).isTick := by
  rw [requests_eq]
  by_cases hrefuses : reach.refuses explicit = true
  · simp [hrefuses]
  · rw [if_neg hrefuses, List.forall_mem_map]
    constructor
    · intro hall
      right
      intro e he
      exact (coherent_requestFor_iff p _ _ _ _ (Resolver.coherent_of_mem_serving h he)).mp
        (hall e he)
    · intro hall e he
      have hcond := hall.resolve_left hrefuses e he
      exact (coherent_requestFor_iff p _ _ _ _ (Resolver.coherent_of_mem_serving h he)).mpr hcond

/-! ### Ticks where bars are asked for -/

/-- A planner with one subscription, to the single trades of a share. -/
def ofTrades : Planner where
  resolver := ⟨(Catalog.empty.add (.of spy .tick .trade .utc)).value, .alwaysOpen, .empty,
    Settings.usual.defaults⟩
  calendar := .linear

lemma coherent_catalog_ofTrades : ofTrades.resolver.catalog.Coherent :=
  Catalog.coherent_empty.add (Subscription.coherent_of spy .tick .trade .utc)

/-- Over a range, without a resolution of its own, a call asks for the ticks there are. -/
theorem coherent_requests_ofTrades :
    ofTrades.resolver.catalog.Coherent ∧
      ∀ r ∈ ofTrades.requests (.all [spy]) (.range .first afternoon .none) none, r.Coherent :=
  ⟨coherent_catalog_ofTrades,
    (coherent_requests_iff ofTrades coherent_catalog_ofTrades _ _ _).mpr (by decide +kernel)⟩

/-- A call for the last five minute bars asks for ticks among the bars of a minute. -/
theorem not_coherent_requests_ofTrades :
    ofTrades.resolver.catalog.Coherent ∧
      ¬∀ r ∈ ofTrades.requests (.all [spy]) (.bars 5 afternoon) (some .minute), r.Coherent :=
  ⟨coherent_catalog_ofTrades, by decide +kernel⟩

end Planner

end MarketHistory
