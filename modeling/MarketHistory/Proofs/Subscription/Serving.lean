import MarketHistory.Proofs.Order.Sorting
import MarketHistory.Subscription.Resolver
import Mathlib.Data.List.Forall2
import Mathlib.Tactic.Lemma

/-!
# Which subscriptions serve a request

The subscriptions of a symbol that fit a request serve it, the best first; those that are equally
good stay in the order in which they were added (`ranked_registered`). If none fits, the request is
served by subscriptions that stand in for them, one for each tick type of the symbol that has data
of the requested type (`standsIn_synthesized`).
-/

namespace MarketHistory

/-! ### Fitting a request -/

/-- A request takes data of the type that it names or, if it names none, all but open interest. -/
def DataType.TakenBy (t requested : DataType) : Prop :=
  if requested = .base then t ≠ .openInterest else t = requested

instance (t requested : DataType) : Decidable (t.TakenBy requested) :=
  inferInstanceAs (Decidable (if requested = .base then t ≠ .openInterest else t = requested))

lemma Resolver.takes_iff {requested t : DataType} :
    takes requested t = true ↔ t.TakenBy requested := by
  cases requested <;> cases t <;> decide

/-- Shares have no quotes by the hour or by the day. -/
def TickType.ExistsAt (t : TickType) (securityType : SecurityType) (resolution : Resolution) :
    Prop :=
  securityType = .equity → resolution = .hour ∨ resolution = .daily → t ≠ .quote

instance (t : TickType) (securityType : SecurityType) (resolution : Resolution) :
    Decidable (t.ExistsAt securityType resolution) :=
  inferInstanceAs (Decidable (_ = _ → _ ∨ _ → _ ≠ _))

lemma TickType.existsFor_iff {t : TickType} {securityType : SecurityType}
    {resolution : Resolution} :
    t.existsFor securityType resolution = true ↔ t.ExistsAt securityType resolution := by
  simp [existsFor, ExistsAt]
  tauto

namespace Subscription

/-- A subscription of a symbol fits a request: the request takes its data, and such data exist at
the resolution if one is given. -/
structure Fits (s : Subscription) (symbol : Symbol) (requested : DataType)
    (explicit : Option Resolution) : Prop where
  taken    : s.dataType.TakenBy requested
  existing : ∀ resolution, explicit = some resolution →
    s.tickType.ExistsAt symbol.securityType resolution

lemma not_isExcludedQuote_iff {s : Subscription} {symbol : Symbol} {explicit : Option Resolution} :
    (!Resolver.isExcludedQuote symbol explicit s) = true ↔
      ∀ resolution, explicit = some resolution →
        s.tickType.ExistsAt symbol.securityType resolution := by
  cases explicit with
  | none => simp [Resolver.isExcludedQuote]
  | some resolution =>
    simp only [Option.some.injEq, forall_eq']
    rw [← TickType.existsFor_iff, Resolver.isExcludedQuote, TickType.existsFor]
    simp only [Option.some.injEq, Bool.or_comm]

lemma fits_iff {s : Subscription} {symbol : Symbol} {requested : DataType}
    {explicit : Option Resolution} :
    s.Fits symbol requested explicit ↔
      (Resolver.takes requested s.dataType &&
        !Resolver.isExcludedQuote symbol explicit s) = true := by
  rw [Bool.and_eq_true, Resolver.takes_iff, not_isExcludedQuote_iff]
  exact ⟨fun h => ⟨h.taken, h.existing⟩, fun h => ⟨h.1, h.2⟩⟩

instance (s : Subscription) (symbol : Symbol) (requested : DataType)
    (explicit : Option Resolution) : Decidable (s.Fits symbol requested explicit) :=
  decidable_of_iff _ fits_iff.symm

/-! ### The best first -/

/-- A subscription is at least as good as another one: its data are finer or, if they are as fine,
of a tick type that comes earlier among the priorities or, if that is the same, it is not kept by
the engine unless the other one is. -/
def AsGoodAs (priorities : List TickType) (a b : Subscription) : Prop :=
  a.resolution < b.resolution ∨ a.resolution = b.resolution ∧
    (a.tickType.rankIn priorities < b.tickType.rankIn priorities ∨
      a.tickType.rankIn priorities = b.tickType.rankIn priorities ∧
        (a.isInternal = true → b.isInternal = true))

lemma precedes_iff {priorities : List TickType} {a b : Subscription} :
    Resolver.precedes priorities a b = true ↔ a.AsGoodAs priorities b := by
  have hinternal : (compare a.isInternal b.isInternal).isLE = true ↔
      (a.isInternal = true → b.isInternal = true) := by
    cases a.isInternal <;> cases b.isInternal <;> decide
  simp only [Resolver.precedes, compareLex, compareOn, Ordering.isLE_then_iff_or,
    Std.LawfulEqOrd.compare_eq_iff_eq, Nat.compare_eq_lt, hinternal]
  rfl

/-- What makes a subscription better than others. -/
def quality (priorities : List TickType) (s : Subscription) : Resolution × Nat × Bool :=
  (s.resolution, s.tickType.rankIn priorities, s.isInternal)

lemma asGoodAs_of_quality_eq {priorities : List TickType} {a b : Subscription}
    (h : a.quality priorities = b.quality priorities) : a.AsGoodAs priorities b := by
  simp only [quality, Prod.mk.injEq] at h
  obtain ⟨hresolution, hrank, hinternal⟩ := h
  exact .inr ⟨hresolution, .inr ⟨hrank, fun h => hinternal ▸ h⟩⟩

/-- A list has the given subscriptions, the best first, with those of one quality in the order that
they had. -/
structure Ranked (priorities : List TickType) (given found : List Subscription) : Prop where
  perm   : found.Perm given
  sorted : found.Pairwise (AsGoodAs priorities)
  stable : ∀ quality : Resolution × Nat × Bool,
    found.filter (·.quality priorities = quality) = given.filter (·.quality priorities = quality)

lemma ranked_mergeSort (priorities : List TickType) (given : List Subscription) :
    Ranked priorities given (given.mergeSort (Resolver.precedes priorities)) where
  perm   := List.mergeSort_perm given _
  sorted := (pairwise_mergeSort_isLE _ given).imp precedes_iff.mp
  -- sorting is stable, and subscriptions of one quality may stand in any order
  stable := fun _ => filter_mergeSort (fun _ _ _ => Std.TransCmp.isLE_trans) isLE_or_isLE
    (fun _ _ ha hb => precedes_iff.mpr (asGoodAs_of_quality_eq
      ((of_decide_eq_true ha).trans (of_decide_eq_true hb).symm))) given

lemma Ranked.filter {priorities : List TickType} {given found : List Subscription}
    (h : Ranked priorities given found) (p : Subscription → Bool) :
    Ranked priorities (given.filter p) (found.filter p) where
  perm   := h.perm.filter p
  sorted := h.sorted.filter p
  stable := fun _ => by rw [List.filter_comm, h.stable, List.filter_comm]

end Subscription

namespace Resolver

variable (r : Resolver) (symbol : Symbol) (requested : DataType) (explicit : Option Resolution)

/-- The subscriptions of a symbol that fit a request, in the order in which they were added. -/
def fitting : List Subscription :=
  (r.catalog.subscriptionsOf symbol).filter (·.Fits symbol requested explicit)

/-- What fits is chosen after sorting. -/
lemma registered_eq_filter :
    r.registered symbol requested explicit =
      ((r.catalog.subscriptionsOf symbol).mergeSort
        (precedes (r.catalog.tickTypesOf symbol.securityType))).filter
          (·.Fits symbol requested explicit) :=
  List.filter_congr fun _ _ => Bool.eq_iff_iff.mpr
    (Subscription.fits_iff.symm.trans decide_eq_true_iff.symm)

lemma ranked_registered :
    Subscription.Ranked (r.catalog.tickTypesOf symbol.securityType)
      (r.fitting symbol requested explicit) (r.registered symbol requested explicit) := by
  rw [registered_eq_filter]
  exact (Subscription.ranked_mergeSort _ _).filter _

lemma registered_eq_nil_iff :
    r.registered symbol requested explicit = [] ↔ r.fitting symbol requested explicit = [] := by
  have hperm := (r.ranked_registered symbol requested explicit).perm
  exact ⟨fun h => (h ▸ hperm).nil_eq.symm, fun h => (h ▸ hperm).eq_nil⟩

/-- What is registered is what was added to the catalog and fits. -/
lemma mem_registered_iff {s : Subscription} :
    s ∈ r.registered symbol requested explicit ↔
      s ∈ r.catalog.subscriptionsOf symbol ∧ s.Fits symbol requested explicit := by
  rw [(r.ranked_registered symbol requested explicit).perm.mem_iff, fitting, List.mem_filter,
    decide_eq_true_iff]

lemma resolve_of_fitting (h : r.fitting symbol requested explicit ≠ []) :
    r.resolve symbol requested explicit = pure (r.registered symbol requested explicit) := by
  have hregistered : r.registered symbol requested explicit ≠ [] :=
    (r.registered_eq_nil_iff symbol requested explicit).not.mpr h
  rw [resolve]
  split
  next hnil => exact absurd hnil hregistered
  next => rfl

variable {r symbol requested explicit} in
/-- What fits a request serves it. -/
lemma mem_resolve_of_mem_fitting {s : Subscription} (hs : s ∈ r.fitting symbol requested explicit) :
    s ∈ (r.resolve symbol requested explicit).value := by
  rw [resolve_of_fitting _ _ _ _ (List.ne_nil_of_mem hs), Traced.value_pure]
  exact (r.ranked_registered symbol requested explicit).perm.mem_iff.mpr hs

lemma value_resolve_of_not_fitting (h : r.fitting symbol requested explicit = []) :
    (r.resolve symbol requested explicit).value = r.synthesized symbol requested explicit := by
  rw [resolve, (r.registered_eq_nil_iff symbol requested explicit).mpr h]
  rfl

variable {r symbol requested explicit} in
/-- A subscription that serves a request is of a type that the request takes. -/
lemma takes_of_mem_resolve {s : Subscription}
    (hs : s ∈ (r.resolve symbol requested explicit).value) : takes requested s.dataType = true := by
  simp only [resolve] at hs
  split at hs
  · obtain ⟨k, hk, rfl⟩ := List.mem_map.mp hs
    exact (List.mem_filter.mp hk).2
  · have hserves := (List.mem_filter.mp hs).2
    rw [Bool.and_eq_true] at hserves
    exact hserves.1

end Resolver

/-! ### Subscriptions that stand in -/

/-- A subscription stands in for those of a symbol that give data of a tick type: it has the market
hours of the symbol and the options of the universe. -/
structure Subscription.StandsInFor (s : Subscription) (r : Resolver) (symbol : Symbol)
    (resolution : Resolution) (t : TickType) : Prop where
  exchangeTimeZone : s.exchangeTimeZone = (r.marketHours symbol).hours.timeZone
  dataTimeZone     : s.dataTimeZone = (r.marketHours symbol).dataTimeZone
  dataType         : s.dataType = .ofTickType t resolution.isTick
  tickType         : s.tickType = t
  resolution       : s.resolution = resolution
  symbol           : s.symbol = symbol
  fillForward      : s.fillForward = r.defaults.fillForward
  extendedHours    : s.extendedHours = r.defaults.extendedHours
  normalization    : s.normalization = r.defaults.normalization
  isInternal       : s.isInternal = true
  isCustom         : s.isCustom = false

namespace Resolver

variable (r : Resolver) (symbol : Symbol) (requested : DataType)

/-- The tick types of a symbol with data that a request takes at a resolution, the most important
first; a canonical symbol has none. -/
def standInTypes (resolution : Resolution) : List TickType :=
  if symbol.canonical then []
  else (r.catalog.tickTypesOf symbol.securityType).filter fun t =>
    t.ExistsAt symbol.securityType resolution ∧
      (DataType.ofTickType t resolution.isTick).TakenBy requested

/-- One subscription is made up for each of these tick types, at the effective resolution. -/
lemma synthesized_eq_map (explicit : Option Resolution) :
    let resolution := r.effectiveResolution symbol explicit
    r.synthesized symbol requested explicit =
      (r.standInTypes symbol requested resolution).map fun t =>
        r.defaultSubscription symbol resolution (.ofTickType t resolution.isTick) t := by
  intro resolution
  rw [synthesized, Catalog.defaultsOf, DataType.defaults, standInTypes]
  cases symbol.canonical with
  | true => rfl
  | false =>
    simp only [Bool.false_eq_true, if_false, List.filter_map, List.map_map, List.filter_filter]
    refine congrArg (List.map _) (List.filter_congr fun t _ => Bool.eq_iff_iff.mpr ?_)
    rw [Function.comp_apply, Bool.and_eq_true, takes_iff, TickType.existsFor_iff,
      decide_eq_true_iff, and_comm]

lemma standsIn_synthesized (explicit : Option Resolution) :
    let resolution := r.effectiveResolution symbol explicit
    List.Forall₂ (fun s t => s.StandsInFor r symbol resolution t)
      (r.synthesized symbol requested explicit) (r.standInTypes symbol requested resolution) := by
  intro resolution
  rw [synthesized_eq_map, List.forall₂_map_left_iff, List.forall₂_same]
  intro t _
  constructor <;> rfl

variable {r symbol requested} in
lemma existsAt_of_mem_standInTypes {resolution : Resolution} {t : TickType}
    (ht : t ∈ r.standInTypes symbol requested resolution) :
    t.ExistsAt symbol.securityType resolution := by
  rw [standInTypes] at ht
  split at ht
  · cases ht
  · exact (of_decide_eq_true (List.mem_filter.mp ht).2).1

end Resolver

end MarketHistory
