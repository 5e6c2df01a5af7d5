import MarketHistory.Proofs.Subscription.Serving

/-!
# Narrower requests

A request for all data of a symbol can be narrowed in two ways. With an explicit resolution, shares
lose their quotes by the hour and by the day (`existsAt_of_mem_resolve`); where nothing is lost,
nothing changes if the effective resolution is given explicitly (`resolve_effective`). A request for
one type of data is served by what serves the request for all data and is of that type, if there is
any (`value_resolve_eq_filter`).
-/

namespace MarketHistory

namespace Resolver

variable (r : Resolver) (symbol : Symbol) (requested : DataType)

/-! ### Requests with an explicit resolution -/

@[simp]
lemma effectiveResolution_some (resolution : Resolution) :
    r.effectiveResolution symbol (some resolution) = resolution := rfl

variable {r symbol requested} in
/-- Whatever serves a request with an explicit resolution, added to the catalog or made up, gives
data that exist at that resolution. -/
lemma existsAt_of_mem_resolve {resolution : Resolution} {s : Subscription}
    (hs : s ∈ (r.resolve symbol requested (some resolution)).value) :
    s.tickType.ExistsAt symbol.securityType resolution := by
  by_cases hfitting : r.fitting symbol requested (some resolution) = []
  · rw [value_resolve_of_not_fitting _ _ _ _ hfitting, synthesized_eq_map] at hs
    obtain ⟨t, ht, rfl⟩ := List.mem_map.mp hs
    exact existsAt_of_mem_standInTypes ht
  · rw [resolve_of_fitting _ _ _ _ hfitting] at hs
    have hfits := (r.mem_registered_iff symbol requested (some resolution)).mp hs
    exact hfits.2.existing resolution rfl

/-- The effective resolution may be given explicitly if the data of all subscriptions that fit the
request exist at it. -/
lemma resolve_effective
    (h : ∀ s ∈ r.fitting symbol requested none,
      s.tickType.ExistsAt symbol.securityType (r.effectiveResolution symbol none)) :
    r.resolve symbol requested (some (r.effectiveResolution symbol none)) =
      r.resolve symbol requested none := by
  let effective := r.effectiveResolution symbol none
  have hregistered : r.registered symbol requested (some effective) =
      r.registered symbol requested none := by
    rw [registered_eq_filter, registered_eq_filter]
    refine List.filter_congr fun s hs => decide_eq_decide.mpr ?_
    have hadded : s ∈ r.catalog.subscriptionsOf symbol := List.mem_mergeSort.mp hs
    constructor
    · intro hfits
      exact ⟨hfits.taken, fun _ hnone => nomatch hnone⟩
    · intro hfits
      have hexists := h s (List.mem_filter.mpr ⟨hadded, decide_eq_true hfits⟩)
      exact ⟨hfits.taken, fun _ hsome => Option.some.inj hsome ▸ hexists⟩
  -- what is made up depends on the effective resolution only
  have hsynthesized : r.synthesized symbol requested (some effective) =
      r.synthesized symbol requested none := rfl
  rw [resolve, resolve, hregistered, hsynthesized]
  rfl

/-! ### Requests for one type of data -/

/-- Data that a request for a type other than open interest takes are what it accepts of the data
that a request for all data takes. -/
lemma takes_eq_and {t : DataType} (h : requested ≠ .openInterest) :
    takes requested t = (requested.accepts t && takes .base t) := by
  revert h
  cases requested <;> cases t <;> decide

variable {requested} (h : requested ≠ .openInterest) (explicit : Option Resolution)

include h

lemma registered_eq_filter_accepts :
    r.registered symbol requested explicit =
      (r.registered symbol .base explicit).filter (requested.accepts ·.dataType) := by
  rw [registered, registered, List.filter_filter]
  refine List.filter_congr fun s _ => ?_
  rw [takes_eq_and requested h, Bool.and_assoc]

lemma synthesized_eq_filter_accepts :
    r.synthesized symbol requested explicit =
      (r.synthesized symbol .base explicit).filter (requested.accepts ·.dataType) := by
  simp only [synthesized, List.filter_map, List.filter_filter]
  refine congrArg (List.map _) (List.filter_congr fun k _ => ?_)
  exact takes_eq_and requested h

variable {r symbol explicit} in
/-- What serves a request for one type of data serves the request for all data, unless it is made up
beside subscriptions that fit the latter. -/
lemma mem_resolve_base {s : Subscription} (hs : s ∈ (r.resolve symbol requested explicit).value)
    (hfits : r.fitting symbol requested explicit ≠ [] ∨ r.fitting symbol .base explicit = []) :
    s ∈ (r.resolve symbol .base explicit).value := by
  by_cases hfitting : r.fitting symbol requested explicit = []
  · have hbase := hfits.resolve_left (not_not_intro hfitting)
    rw [value_resolve_of_not_fitting _ _ _ _ hfitting,
      r.synthesized_eq_filter_accepts symbol h explicit] at hs
    rw [value_resolve_of_not_fitting _ _ _ _ hbase]
    exact List.mem_of_mem_filter hs
  · rw [resolve_of_fitting _ _ _ _ hfitting, Traced.value_pure,
      r.registered_eq_filter_accepts symbol h explicit] at hs
    have hregistered := List.mem_of_mem_filter hs
    have hbase : r.fitting symbol .base explicit ≠ [] :=
      (r.registered_eq_nil_iff symbol .base explicit).not.mp (List.ne_nil_of_mem hregistered)
    rw [resolve_of_fitting _ _ _ _ hbase, Traced.value_pure]
    exact hregistered

omit h

variable {r symbol explicit} in
/-- What serves a request for one type of data is what serves the request for all data and is of
that type, if there is any. -/
lemma value_resolve_eq_filter {s : Subscription}
    (hs : s ∈ (r.resolve symbol .base explicit).value)
    (haccepts : requested.accepts s.dataType = true) :
    (r.resolve symbol requested explicit).value =
      (r.resolve symbol .base explicit).value.filter (requested.accepts ·.dataType) := by
  have htype : requested ≠ .openInterest := by
    -- open interest serves only requests that name it
    rintro rfl
    have htakes := takes_of_mem_resolve hs
    revert htakes haccepts
    cases s.dataType <;> decide
  by_cases hfitting : r.fitting symbol .base explicit = []
  · have hnone := (r.registered_eq_nil_iff symbol .base explicit).mpr hfitting
    have hregistered : r.registered symbol requested explicit = [] := by
      rw [r.registered_eq_filter_accepts symbol htype explicit, hnone, List.filter_nil]
    have hfitting' := (r.registered_eq_nil_iff symbol requested explicit).mp hregistered
    rw [value_resolve_of_not_fitting _ _ _ _ hfitting, value_resolve_of_not_fitting _ _ _ _ hfitting']
    exact r.synthesized_eq_filter_accepts symbol htype explicit
  · rw [resolve_of_fitting _ _ _ _ hfitting, Traced.value_pure] at hs ⊢
    rw [← r.registered_eq_filter_accepts symbol htype explicit]
    have hmem : s ∈ r.registered symbol requested explicit := by
      rw [r.registered_eq_filter_accepts symbol htype explicit]
      exact List.mem_filter.mpr ⟨hs, haccepts⟩
    have hfitting' : r.fitting symbol requested explicit ≠ [] :=
      (r.registered_eq_nil_iff symbol requested explicit).not.mp (List.ne_nil_of_mem hmem)
    rw [resolve_of_fitting _ _ _ _ hfitting', Traced.value_pure]

variable {r symbol explicit} in
/-- The best subscription of a type is the first of all that serve the request for all data and are
of that type. -/
lemma head?_resolve_of_find? {s : Subscription}
    (hs : (r.resolve symbol .base explicit).value.find? (requested.accepts ·.dataType) = some s) :
    (r.resolve symbol requested explicit).value.head? = some s := by
  have haccepts := List.find?_some hs
  rw [value_resolve_eq_filter (List.mem_of_find?_eq_some hs) haccepts, List.head?_filter, hs]

end Resolver

end MarketHistory
