import MarketHistory.Proofs.Desk.LastPrices
import MarketHistory.Proofs.Desk.Multiplicity
import Mathlib.Data.List.Nodup

/-!
# Last known prices in any order

Last known prices are kept by tick type and may be enumerated in any order before they are arranged.
Arranging them undoes the order exactly if no two of them begin at the same time and are of tick
types without a priority (`Desk.lastKnownPrices_enumerated_iff`).
-/

namespace MarketHistory

/-! ### Ranks -/

namespace TickType

variable {priorities : List TickType} {t t' : TickType}

lemma rankIn_lt_length_iff : t.rankIn priorities < priorities.length ↔ t ∈ priorities := by
  rw [rankIn, List.findIdx_lt_length]
  constructor
  · rintro ⟨t', ht', heq⟩
    exact of_decide_eq_true heq ▸ ht'
  · exact fun ht => ⟨t, ht, decide_eq_true rfl⟩

/-- The rank of a tick type with a priority is its place. -/
lemma getElem?_rankIn (h : t ∈ priorities) : priorities[t.rankIn priorities]? = some t := by
  have hlt := rankIn_lt_length_iff.mpr h
  have hplace := List.findIdx_getElem (w := hlt)
  rw [List.getElem?_eq_getElem hlt]
  exact congrArg some (of_decide_eq_true hplace)

/-- Different tick types have the same rank exactly if neither has a priority. -/
lemma rankIn_eq_rankIn_iff :
    t.rankIn priorities = t'.rankIn priorities ↔ t = t' ∨ t ∉ priorities ∧ t' ∉ priorities := by
  constructor
  · intro heq
    by_cases ht : t ∈ priorities
    · have ht' : t' ∈ priorities := by
        rw [← rankIn_lt_length_iff, ← heq, rankIn_lt_length_iff]
        exact ht
      have hplace := getElem?_rankIn ht
      rw [heq, getElem?_rankIn ht'] at hplace
      exact .inl (Option.some.inj hplace).symm
    · refine .inr ⟨ht, ?_⟩
      rw [← rankIn_lt_length_iff, ← heq, rankIn_lt_length_iff]
      exact ht
  · rintro (rfl | ⟨ht, ht'⟩)
    · rfl
    · have hlength {t : TickType} (ht : t ∉ priorities) :
          t.rankIn priorities = priorities.length :=
        Nat.le_antisymm List.findIdx_le_length
          (Nat.not_lt.mp (mt rankIn_lt_length_iff.mp ht))
      rw [hlength ht, hlength ht']

end TickType

/-- Observations are alike for arranging exactly if they begin at the same time and are of the same
tick type or of two without a priority. -/
lemma Observation.compare_eq_iff {priorities : List TickType} {o o' : Observation} :
    compareLex (compareOn time) (compareOn (·.tickType.rankIn priorities)) o o' = .eq ↔
      o.time = o'.time ∧ (o.tickType = o'.tickType ∨
        o.tickType ∉ priorities ∧ o'.tickType ∉ priorities) := by
  rw [compareLex_compareOn_eq_iff, compareOn_eq_iff, TickType.rankIn_eq_rankIn_iff]

namespace Desk

variable (d : Desk) (symbol : Symbol)

/-- Whether anything is looked for or not, what was found stands under its tick type. -/
lemma keyed_latestByType_value : (d.latestByType symbol).value.Keyed := by
  by_cases h : d.connected = false ∨ symbol.canonical = true
  · rw [latestByType_eq_nil h]
    exact LatestByType.keyed_nil
  · rw [not_or, Bool.not_eq_false, Bool.not_eq_true] at h
    exact keyed_latestByType h.1 h.2

lemma value_lastKnownPrices :
    (d.lastKnownPrices symbol).value = Observation.arrange
      (d.catalog.tickTypesOf symbol.securityType) (d.latestByType symbol).value.observations := by
  rw [lastKnownPrices, Traced.value_bind]
  rfl

lemma value_lastKnownPrice? :
    (d.lastKnownPrice? symbol).value = Observation.primary?
      (d.catalog.tickTypesOf symbol.securityType) (d.lastKnownPrices symbol).value := by
  rw [lastKnownPrice?, Traced.value_bind]
  rfl

/-- The last known prices and the last known price of a symbol are the same for every order in which
what was found may be enumerated before it is arranged, exactly if no two prices of different tick
types without a priority begin at the same time. -/
theorem lastKnownPrices_enumerated_iff (d : Desk) (symbol : Symbol) :
    let priorities := d.catalog.tickTypesOf symbol.securityType
    let found := (d.latestByType symbol).value.observations
    let prices := (d.lastKnownPrices symbol).value
    (∀ enumerated : List Observation, enumerated.Perm found →
      Observation.arrange priorities enumerated = prices ∧
        Observation.primary? priorities (Observation.arrange priorities enumerated) =
          (d.lastKnownPrice? symbol).value) ↔
      ∀ o ∈ prices, ∀ o' ∈ prices, o.time = o'.time →
        o.tickType ∉ priorities → o'.tickType ∉ priorities → o.tickType = o'.tickType := by
  intro priorities found prices
  have hprices : prices = Observation.arrange priorities found := d.value_lastKnownPrices symbol
  have htypes : (found.map (·.tickType)).Nodup := by
    have hkeyed := d.keyed_latestByType_value symbol
    exact hkeyed.map_tickType ▸ hkeyed.nodup
  -- the first price follows the prices
  have hprice : (∀ enumerated : List Observation, enumerated.Perm found →
        Observation.arrange priorities enumerated = prices ∧
          Observation.primary? priorities (Observation.arrange priorities enumerated) =
            (d.lastKnownPrice? symbol).value) ↔
      ∀ enumerated : List Observation, enumerated.Perm found →
        Observation.arrange priorities enumerated = prices := by
    refine ⟨fun h enumerated hperm => (h enumerated hperm).1, fun h enumerated hperm => ?_⟩
    rw [h enumerated hperm]
    exact ⟨rfl, (d.value_lastKnownPrice? symbol).symm⟩
  rw [hprice, hprices]
  refine (mergeSort_perm_iff (List.Nodup.of_map _ htypes)).trans ?_
  constructor
  · intro hapart o ho o' ho' htime hnone hnone'
    refine congrArg (·.tickType) (hapart o (List.mem_mergeSort.mp ho) o'
      (List.mem_mergeSort.mp ho') (Observation.compare_eq_iff.mpr ⟨htime, .inr ⟨hnone, hnone'⟩⟩))
  · intro hranked o ho o' ho' heq
    have htype : o.tickType = o'.tickType := by
      obtain ⟨htime, htype | ⟨hnone, hnone'⟩⟩ := Observation.compare_eq_iff.mp heq
      · exact htype
      · exact hranked o (List.mem_mergeSort.mpr ho) o' (List.mem_mergeSort.mpr ho') htime hnone hnone'
    exact List.inj_on_of_nodup_map htypes ho ho' htype

/-! ### Two prices without a priority -/

/-- A bar without quotes, of the same time as the bar of trades. -/
def quotesOfLastDay : Observation :=
  .quoteBar ⟨Planner.spy, .first, lastMidnight.now, none, none⟩

/-- A desk with subscriptions to the quotes and the trades of a share, of which it gives neither a
priority. A bar of each is loaded. -/
def unranked : Desk :=
  let catalog := Catalog.empty.withTickTypes .equity [.openInterest]
  ({ lastMidnight with catalog } : Desk).blank.afterAll
    [.subscribe (.of Planner.spy .minute .quote .utc),
      .subscribe (.of Planner.spy .minute .trade .utc),
      .load .minute [barOfLastDay 0, quotesOfLastDay]]

/-- The bar of quotes is found first, as they were subscribed to first. -/
lemma observations_unranked :
    (unranked.latestByType Planner.spy).value.observations =
      [quotesOfLastDay, barOfLastDay 0] := by
  have hresolve : (unranked.resolver.resolve Planner.spy .base (some .minute)).value =
      [.of Planner.spy .minute .quote .utc, .of Planner.spy .minute .trade .utc] :=
    value_resolve_pair (by decide +kernel) (by decide +kernel) (by decide +kernel)
  have hfirst : (unranked.firstLook Planner.spy).value =
      (true, [(.quote, quotesOfLastDay), (.trade, barOfLastDay 0)]) := by
    have hcatalog : unranked.catalog.Filed := (consistent_afterAll _ _).catalog
    have hbase : unranked.lookbackResolution Planner.spy = .minute := by decide +kernel
    have hne : Resolution.minute ≠ .tick := by decide
    rw [firstLook, hbase, value_lookForLatest hcatalog (by decide +kernel) hne, missing,
      barRequests_eq rfl hne, hresolve]
    decide +kernel
  rw [value_latestByType rfl rfl, hfirst]
  rfl

/-- Enumerated the other way round, the prices are returned so, and the trades are the last known
price instead of the quotes. -/
theorem lastKnownPrices_unranked :
    let priorities := unranked.catalog.tickTypesOf Planner.spy.securityType
    let enumerated := [barOfLastDay 0, quotesOfLastDay]
    let prices := Observation.arrange priorities enumerated
    enumerated.Perm (unranked.latestByType Planner.spy).value.observations ∧
      prices ≠ (unranked.lastKnownPrices Planner.spy).value ∧
      Observation.primary? priorities prices ≠ (unranked.lastKnownPrice? Planner.spy).value := by
  intro priorities enumerated prices
  have hprices : prices = enumerated := mergeSort_pair (by decide +kernel)
  have hfound : (unranked.lastKnownPrices Planner.spy).value =
      [quotesOfLastDay, barOfLastDay 0] := by
    rw [value_lastKnownPrices, observations_unranked]
    exact mergeSort_pair (by decide +kernel)
  rw [value_lastKnownPrice?, observations_unranked, hfound, hprices]
  exact ⟨List.Perm.swap _ _ _, by decide +kernel, by decide +kernel⟩

end Desk

end MarketHistory
