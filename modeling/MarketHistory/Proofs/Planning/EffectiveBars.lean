import MarketHistory.Proofs.Planning.Calls
import MarketHistory.Proofs.Subscription.Narrowing

/-!
# Bars at the effective resolution

A call for a number of bars that gives no resolution counts them at the effective resolution and asks
for them at it, so that it should make the same requests as a call that gives this resolution. It
does unless a share has a subscription to quotes and the effective resolution is hourly or daily
(`bars_effective_iff`): only an explicit resolution leaves out the quotes that do not exist at it.
-/

namespace MarketHistory

namespace Planner

/-- For a symbol, a call that gives the effective resolution does the same as one that gives none if
the data of all subscriptions that fit exist at that resolution. -/
lemma symbolBars_effective (p : Planner) {symbol : Symbol}
    (h : ∀ s ∈ p.resolver.fitting symbol .base none,
      s.tickType.ExistsAt symbol.securityType (p.resolver.effectiveResolution symbol none))
    (periods : Nat) (finish : Instant) :
    p.symbolBars symbol periods (some (p.resolver.effectiveResolution symbol none)) finish =
      p.symbolBars symbol periods none finish := by
  rw [symbolBars, symbolBars, p.resolver.resolve_effective symbol .base h,
    Resolver.effectiveResolution_some]

/-- If the requests are the same, the effective resolution can be counted, and the data of all
subscriptions that fit exist at it. -/
lemma existsAt_of_bars_eq {p : Planner} {symbol : Symbol} {periods : Nat} {finish : Instant}
    (h : (p.bars [symbol] periods none finish).map (·.all.value) =
      (p.bars [symbol] periods (some (p.resolver.effectiveResolution symbol none)) finish).map
        (·.all.value)) :
    p.resolver.effectiveResolution symbol none ≠ .tick ∧ (symbol.canonical = true ∨
      ∀ s ∈ p.resolver.fitting symbol .base none,
        s.tickType.ExistsAt symbol.securityType (p.resolver.effectiveResolution symbol none)) := by
  have htick : p.resolver.effectiveResolution symbol none ≠ .tick := by
    intro htick
    rw [htick] at h
    cases h
  refine ⟨htick, ?_⟩
  cases hcanonical : symbol.canonical with
  | true => exact .inl rfl
  | false =>
    refine .inr fun s hs => ?_
    have hrequests : p.requests (.all [symbol]) (.bars periods finish) none =
        p.requests (.all [symbol]) (.bars periods finish)
          (some (p.resolver.effectiveResolution symbol none)) := by
      simp only [requests, planned_eq_getD, h]
    have htypes := congrArg (List.map (·.tickType)) hrequests
    rw [p.map_tickType_requests_all_singleton hcanonical rfl,
      p.map_tickType_requests_all_singleton hcanonical (Reach.refuses_some _ htick)] at htypes
    have hmem : s.tickType ∈ (p.resolver.resolve symbol .base none).value.map (·.tickType) :=
      List.mem_map_of_mem (Resolver.mem_resolve_of_mem_fitting hs)
    rw [htypes] at hmem
    obtain ⟨s', hs', htickType⟩ := List.mem_map.mp hmem
    exact htickType ▸ Resolver.existsAt_of_mem_resolve hs'

/-- A call for a number of bars of a symbol does the same, questions to the calendar and notices
included, whether it gives no resolution or the effective one, and makes the same requests, exactly
if the effective resolution is not that of ticks, which cannot be counted, and the symbol is
canonical or all its subscriptions that fit are to data that exist at that resolution. -/
theorem bars_effective_iff (p : Planner) (symbol : Symbol) (periods : Nat) (finish : Instant) :
    let effective := p.resolver.effectiveResolution symbol none
    let exist := effective ≠ .tick ∧ (symbol.canonical = true ∨
      ∀ s ∈ p.resolver.fitting symbol .base none,
        s.tickType.ExistsAt symbol.securityType effective)
    (p.bars [symbol] periods none finish = p.bars [symbol] periods (some effective) finish ↔
      exist) ∧
    ((p.bars [symbol] periods none finish).map (·.all.value) =
      (p.bars [symbol] periods (some effective) finish).map (·.all.value) ↔ exist) := by
  intro effective exist
  have hplans : exist →
      p.bars [symbol] periods none finish = p.bars [symbol] periods (some effective) finish := by
    rintro ⟨htick, hexist⟩
    have hnone : (none : Option Resolution) ≠ some .tick := by decide
    have hsome : some effective ≠ some .tick := fun h => htick (Option.some.inj h)
    rw [bars, bars, if_neg hnone, if_neg hsome]
    rcases hexist with hcanonical | hexist
    · simp [hcanonical]
    · refine congrArg Except.ok (List.map_congr_left fun symbol' hsymbol' => ?_)
      obtain rfl := List.mem_singleton.mp (List.mem_filter.mp hsymbol').1
      exact (p.symbolBars_effective hexist periods finish).symm
  constructor
  · exact ⟨fun h => existsAt_of_bars_eq (congrArg _ h), hplans⟩
  · exact ⟨existsAt_of_bars_eq, fun h => congrArg _ (hplans h)⟩

/-! ### Quotes by the hour -/

/-- A planner for a share with a subscription to its trades by the hour. Its quotes by the minute are
kept by the engine. -/
def ofHourlyTrades : Planner where
  resolver :=
    let trades := (Catalog.empty.add (.of spy .hour .trade .utc)).value
    let quotes := { Subscription.of spy .minute .quote .utc with isInternal := true }
    ⟨(trades.add quotes).value, .alwaysOpen, Securities.empty.add spy, Settings.usual.defaults⟩
  calendar := .linear

/-- A call for the last five bars asks for quotes by the hour, unless it says that the bars are
hourly. -/
theorem not_bars_effective_ofHourlyTrades :
    let effective := ofHourlyTrades.resolver.effectiveResolution spy none
    spy.canonical = false ∧ effective = .hour ∧
      (ofHourlyTrades.bars [spy] 5 none afternoon).map (·.all.value) ≠
        (ofHourlyTrades.bars [spy] 5 (some effective) afternoon).map (·.all.value) := by
  refine ⟨rfl, by decide +kernel, fun h => ?_⟩
  have hexist := (existsAt_of_bars_eq h).2
  revert hexist
  decide +kernel

end Planner

end MarketHistory
