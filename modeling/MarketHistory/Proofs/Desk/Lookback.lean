import MarketHistory.Proofs.Desk.Calls
import MarketHistory.Proofs.Desk.Latest
import MarketHistory.Proofs.Desk.Reached

/-!
# Looks back for last known prices

A look asks for a number of bars up to the present, for those tick types of which nothing was found
yet (`missing`). The requests of two looks differ in nothing but their start
(`exists_barRequests_eq`).
-/

namespace MarketHistory

/-! ### Requests of a look -/

/-- The request without filling of gaps. -/
def Request.unfilled (r : Request) : Request := { r with fillForward := none }

/-- Whether gaps are filled makes no difference to what is asked for. -/
lemma Request.pick_unfilled (clocks : ZoneClocks) (r : Request)
    (log : List (Resolution × Observation)) :
    r.unfilled.pick clocks log = r.pick clocks log := by
  have hwants : ∀ resolution o,
      r.unfilled.Wants clocks resolution o ↔ r.Wants clocks resolution o :=
    fun _ _ => ⟨fun h => ⟨h.1, h.2, h.3, h.4, h.5, h.6, h.7⟩,
      fun h => ⟨h.1, h.2, h.3, h.4, h.5, h.6, h.7⟩⟩
  simp only [pick, hwants]

/-- What a request over another range asks for is asked for by the request if it lies within its
range. -/
lemma Request.mem_pick_of_withRange {clocks : ZoneClocks} {r : Request} {start finish : Instant}
    {log : List (Resolution × Observation)} {o : Observation}
    (ho : o ∈ (r.withRange start finish).pick clocks log) (hafter : r.startTime < o.endTime)
    (hupTo : o.endTime ≤ r.endTime) : o ∈ r.pick clocks log := by
  obtain ⟨e, he, rfl⟩ := List.mem_map.mp ho
  obtain ⟨hlog, hwants⟩ := List.mem_filter.mp he
  have h : (r.withRange start finish).Wants clocks e.1 e.2 := of_decide_eq_true hwants
  refine List.mem_map.mpr ⟨e, List.mem_filter.mpr ⟨hlog, decide_eq_true ?_⟩, rfl⟩
  exact ⟨h.symbol, h.resolution, h.dataType, h.tickType, hafter, hupTo, h.session⟩

namespace Desk

variable (d : Desk) (symbol : Symbol) (periods : Nat) (resolution : Resolution)

/-- The requests for a number of bars of a symbol up to the present. -/
def barRequests : List Request :=
  d.planner.requestsOf ⟨.all [symbol], .bars periods d.now, some resolution⟩

/-- The requests of a look for what was not found yet. -/
def missing (found : LatestByType) : List Request :=
  ((d.barRequests symbol periods resolution).map Request.unfilled).filter fun r =>
    !found.has r.tickType

variable {d symbol periods resolution}

lemma barRequests_tick : d.barRequests symbol periods .tick = [] := by
  rw [barRequests, Planner.requestsOf, Planner.requests_eq]
  rfl

/-- There is a request for each subscription of the symbol. -/
lemma barRequests_eq (hcanonical : symbol.canonical = false) (hresolution : resolution ≠ .tick) :
    d.barRequests symbol periods resolution =
      (d.resolver.resolve symbol .base (some resolution)).value.map
        (d.planner.requestFor (.all [symbol]) (.bars periods d.now) (some resolution) symbol) :=
  d.planner.requests_all_singleton hcanonical
    (Reach.refuses_some (.bars periods d.now) hresolution)

/-- The requests for another number of bars are the same but for their start, which they share. -/
lemma exists_barRequests_eq (d : Desk) (hcanonical : symbol.canonical = false)
    (resolution : Resolution) (periods periods' : Nat) :
    ∃ start, d.barRequests symbol periods' resolution =
      (d.barRequests symbol periods resolution).map (·.withRange start d.now) := by
  by_cases hresolution : resolution = .tick
  · subst hresolution
    exact ⟨d.now, by rw [barRequests_tick, barRequests_tick, List.map_nil]⟩
  · rw [barRequests_eq hcanonical hresolution, barRequests_eq hcanonical hresolution]
    cases hresolve : (d.resolver.resolve symbol .base (some resolution)).value with
    | nil => exact ⟨d.now, rfl⟩
    | cons first rest =>
      -- bars are counted in the zone of the best subscription
      refine ⟨d.planner.startFor (.all [symbol]) (.bars periods' d.now) (some resolution) symbol
        first, ?_⟩
      rw [List.map_map]
      refine List.map_congr_left fun s _ => ?_
      have hzone : ∀ s, d.planner.countingZone (.all [symbol]) (some resolution) symbol s =
          first.dataTimeZone := by
        intro s
        show ((d.resolver.resolve symbol .base (some resolution)).value.head?.getD
          s).dataTimeZone = _
        rw [hresolve]
        rfl
      simp only [Planner.requestFor, Planner.startFor, hzone, Function.comp_def]
      rfl

/-- Every request is made for a subscription of the symbol, at the resolution of the look. -/
lemma exists_of_mem_barRequests {r : Request} (hr : r ∈ d.barRequests symbol periods resolution) :
    ∃ s ∈ (d.resolver.resolve symbol .base (some resolution)).value,
      r = d.planner.requestFor (.all [symbol]) (.bars periods d.now) (some resolution) symbol
        s := by
  rw [barRequests, Planner.requestsOf] at hr
  obtain ⟨e, he, rfl⟩ := Planner.exists_of_mem_requests hr
  obtain ⟨symbol', hsymbol', he⟩ := List.mem_flatMap.mp he
  obtain ⟨s, hs, rfl⟩ := List.mem_map.mp he
  have hsymbol' := List.mem_singleton.mp (List.mem_filter.mp hsymbol').1
  subst hsymbol'
  exact ⟨s, hs, rfl⟩

lemma symbol_of_mem_barRequests (hcatalog : d.catalog.Filed) {r : Request}
    (hr : r ∈ d.barRequests symbol periods resolution) : r.symbol = symbol := by
  obtain ⟨s, hs, rfl⟩ := exists_of_mem_barRequests hr
  exact Resolver.symbol_of_mem_resolve hcatalog hs

lemma endTime_of_mem_barRequests {r : Request}
    (hr : r ∈ d.barRequests symbol periods resolution) : r.endTime = d.now := by
  obtain ⟨s, _, rfl⟩ := exists_of_mem_barRequests hr
  rfl

lemma resolution_of_mem_barRequests {r : Request}
    (hr : r ∈ d.barRequests symbol periods resolution) : r.resolution = resolution := by
  obtain ⟨s, _, rfl⟩ := exists_of_mem_barRequests hr
  rfl

/-- The requests for a number of bars share their start. -/
lemma exists_startTime_eq (d : Desk) (hcanonical : symbol.canonical = false)
    (resolution : Resolution) (periods : Nat) :
    ∃ start, ∀ r ∈ d.barRequests symbol periods resolution, r.startTime = start := by
  obtain ⟨start, hstart⟩ := d.exists_barRequests_eq hcanonical resolution periods periods
  refine ⟨start, fun r hr => ?_⟩
  rw [hstart] at hr
  obtain ⟨r, _, rfl⟩ := List.mem_map.mp hr
  rfl

/-- What is missing is requested as for the bars, without filling of gaps. -/
lemma mem_missing_iff {found : LatestByType} {r : Request} :
    r ∈ d.missing symbol periods resolution found ↔
      found.has r.tickType = false ∧
        ∃ r' ∈ d.barRequests symbol periods resolution, r'.unfilled = r := by
  rw [missing, List.mem_filter, List.mem_map, Bool.not_eq_true', and_comm]

/-- Of a tick type that was not found, what is missing is all that there is. -/
lemma pickedFor_missing_iff {clocks : ZoneClocks} {found : LatestByType} {t : TickType}
    (ht : found.get? t = none) (log : List (Resolution × Observation)) (o : Observation) :
    PickedFor clocks (d.missing symbol periods resolution found) log t o ↔
      PickedFor clocks (d.barRequests symbol periods resolution) log t o := by
  constructor
  · rintro ⟨_, hr, rfl, ho⟩
    obtain ⟨_, r, hbar, rfl⟩ := mem_missing_iff.mp hr
    exact ⟨r, hbar, rfl, r.pick_unfilled clocks log ▸ ho⟩
  · rintro ⟨r, hr, rfl, ho⟩
    have hhas : found.has r.unfilled.tickType = false := by
      rw [LatestByType.has_eq_isSome_get?]
      exact congrArg Option.isSome ht
    refine ⟨r.unfilled, mem_missing_iff.mpr ⟨hhas, r, hr, rfl⟩, rfl, ?_⟩
    rwa [r.pick_unfilled]

/-- A look delivers its requests as they are: they end at the present. -/
lemma delivery_missing (hcatalog : d.catalog.Filed)
    (huniverse : d.securities.isUniverse symbol = false) (found : LatestByType) :
    d.delivery (d.missing symbol periods resolution found) =
      d.missing symbol periods resolution found := by
  have hmem : ∀ r ∈ d.missing symbol periods resolution found,
      r.symbol = symbol ∧ r.endTime = d.now := by
    intro r hr
    obtain ⟨_, r, hbar, rfl⟩ := mem_missing_iff.mp hr
    have hsymbol : r.symbol = symbol := symbol_of_mem_barRequests hcatalog hbar
    have hend : r.endTime = d.now := endTime_of_mem_barRequests hbar
    exact ⟨hsymbol, hend⟩
  have hkept : (d.missing symbol periods resolution found).filter
      (fun r => !d.securities.isUniverse r.symbol) = d.missing symbol periods resolution found := by
    refine List.filter_eq_self.mpr fun r hr => ?_
    rw [(hmem r hr).1, huniverse]
    rfl
  rw [delivery, hkept]
  conv_rhs => rw [← List.map_id (d.missing symbol periods resolution found)]
  refine List.map_congr_left fun r hr => ?_
  rw [Request.clip_of_le, id]
  rw [(hmem r hr).2]
  exact Std.le_refl _

/-! ### One look -/

/-- Ticks cannot be counted, so that nothing is looked for. -/
lemma value_lookForLatest_tick (found : LatestByType) :
    (d.lookForLatest symbol periods .tick found).value = (false, found) := rfl

lemma batches_lookForLatest_tick (found : LatestByType) :
    (d.lookForLatest symbol periods .tick found).batches = [] := rfl

/-- A number of bars that are not ticks can be planned. -/
lemma exists_plan_bars (d : Desk) (symbol : Symbol) (periods : Nat)
    (hresolution : resolution ≠ .tick) :
    ∃ plan, d.planner.bars [symbol] periods (some resolution) d.now = .ok plan ∧
      plan.all.value = d.barRequests symbol periods resolution ∧ plan.all.Quiet := by
  have hrequests : d.barRequests symbol periods resolution =
      Planner.planned (d.planner.bars [symbol] periods (some resolution) d.now) := rfl
  cases hplan : d.planner.bars [symbol] periods (some resolution) d.now with
  | ok plan =>
    rw [hplan] at hrequests
    exact ⟨plan, rfl, hrequests.symm, Planner.quiet_bars hplan⟩
  | error e => simp [Planner.bars, hresolution] at hplan

/-- What a look does once its requests are made. -/
def findLatest (d : Desk) (symbol : Symbol) (requests : List Request) (found : LatestByType) :
    Traced (Bool × LatestByType) := do
  if requests.isEmpty then return (true, found)
  match ← d.dispatch requests with
  | .error e =>
    Traced.notice (.lastPriceLookupFailed symbol e)
    return (false, found)
  | .ok slices =>
    let found := slices.foldl (LatestByType.putSlice symbol requests) found
    return (requests.all fun r => found.has r.tickType, found)

/-- A look makes its requests quietly. -/
lemma exists_lookForLatest_eq (d : Desk) (symbol : Symbol) (periods : Nat)
    (hresolution : resolution ≠ .tick) (found : LatestByType) :
    ∃ planned : Traced (List Request), planned.Quiet ∧
      d.lookForLatest symbol periods resolution found = planned >>= fun _ =>
        d.findLatest symbol (d.missing symbol periods resolution found) found := by
  obtain ⟨plan, hplan, hvalue, hquiet⟩ := d.exists_plan_bars symbol periods hresolution
  refine ⟨plan.all, hquiet, ?_⟩
  have hmissing : ((plan.all.value).filter fun r => !found.has r.tickType).map Request.unfilled =
      d.missing symbol periods resolution found := by
    rw [hvalue, missing, List.filter_map]
    rfl
  simp only [lookForLatest, hplan]
  rw [← hmissing]
  rfl

/-- What is found, and whether all that was requested is found. An archive that fails leaves all
missing. -/
lemma value_findLatest (requests : List Request) (found : LatestByType) :
    (d.findLatest symbol requests found).value =
      if d.archive.failure = none then
        let found := (d.archive.slices (d.delivery requests)).foldl
          (LatestByType.putSlice symbol requests) found
        (requests.all fun r => found.has r.tickType, found)
      else (requests.isEmpty, found) := by
  cases requests with
  | nil => cases h : d.archive.failure <;> rfl
  | cons r requests =>
    simp only [findLatest, List.isEmpty_cons, Bool.false_eq_true, if_false]
    rw [Traced.value_bind, value_dispatch, Archive.fetch]
    cases d.archive.failure <;> rfl

lemma batches_findLatest (requests : List Request) (found : LatestByType) :
    (d.findLatest symbol requests found).batches =
      if requests = [] then [] else [d.delivery requests] := by
  cases requests with
  | nil => rfl
  | cons r requests =>
    simp only [findLatest, List.isEmpty_cons, Bool.false_eq_true, if_false]
    rw [Traced.batches_bind, batches_dispatch]
    cases (d.dispatch (r :: requests)).value <;> rfl

end Desk

end MarketHistory
