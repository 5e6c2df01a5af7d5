import MarketHistory.Proofs.Desk.Lookback
import MarketHistory.Proofs.Desk.OneSymbol
import MarketHistory.Proofs.Desk.Sources

/-!
# Last known prices

The last known prices of a symbol are found in two looks, of which the second is only for what the
first did not find. Together they find of each tick type the latest that either of them asks for
(`lastKnownPrices_latest`): what the first look finds is at least as late as anything that the
second would add, as both end at the present.
-/

namespace MarketHistory

/-! ### Arranging and choosing -/

namespace Observation

variable (priorities : List TickType)

/-- Arranged observations are in the order of the times at which they begin, those of one time by
the priority of their tick types. -/
lemma pairwise_arrange (prices : List Observation) :
    (arrange priorities prices).Pairwise fun o o' => o.time < o'.time ∨
      o.time = o'.time ∧ o.tickType.rankIn priorities ≤ o'.tickType.rankIn priorities := by
  let cmp := compareLex (compareOn Observation.time) (compareOn (·.tickType.rankIn priorities))
  refine (pairwise_mergeSort_isLE cmp prices).imp fun {o o'} h => ?_
  rcases Ordering.isLE_then_iff_or.mp h with h | ⟨h, hrank⟩
  · exact .inl h
  · exact .inr ⟨Std.LawfulEqOrd.eq_of_compare h, Nat.isLE_compare.mp hrank⟩

/-- The one of two observations whose tick type has the higher priority, the first if they have the
same. -/
def better (best : Option Observation) (o : Observation) : Option Observation :=
  match best with
  | some b => if o.tickType.rankIn priorities < b.tickType.rankIn priorities then some o else best
  | none   => some o

/-- The better observation has the priority of neither exceeded. -/
lemma exists_better_eq (best : Option Observation) (o : Observation) :
    ∃ p, better priorities best o = some p ∧
      p.tickType.rankIn priorities ≤ o.tickType.rankIn priorities ∧
      ∀ b, best = some b → p.tickType.rankIn priorities ≤ b.tickType.rankIn priorities := by
  cases best with
  | none => exact ⟨o, rfl, Nat.le_refl _, fun _ hb => nomatch hb⟩
  | some b =>
    by_cases h : o.tickType.rankIn priorities < b.tickType.rankIn priorities
    · refine ⟨o, if_pos h, Nat.le_refl _, fun b' hb' => ?_⟩
      cases hb'
      exact Nat.le_of_lt h
    · refine ⟨b, if_neg h, Nat.not_lt.mp h, fun b' hb' => ?_⟩
      cases hb'
      exact Nat.le_refl _

/-- Choosing goes on from the best so far and never leaves it for a lower priority. -/
lemma exists_foldl_better_eq (prices : List Observation) (best : Observation) :
    ∃ p, prices.foldl (better priorities) (some best) = some p ∧
      p.tickType.rankIn priorities ≤ best.tickType.rankIn priorities ∧
      ∀ o ∈ prices, p.tickType.rankIn priorities ≤ o.tickType.rankIn priorities := by
  induction prices generalizing best with
  | nil => exact ⟨best, rfl, Nat.le_refl _, fun _ ho => nomatch ho⟩
  | cons o prices ih =>
    obtain ⟨next, hnext, hle, hbest⟩ := exists_better_eq priorities (some best) o
    obtain ⟨p, hp, hple, hprices⟩ := ih next
    refine ⟨p, ?_, Nat.le_trans hple (hbest best rfl), fun o' ho' => ?_⟩
    · rw [List.foldl_cons, hnext, hp]
    · rcases List.mem_cons.mp ho' with rfl | ho'
      · exact Nat.le_trans hple hle
      · exact hprices o' ho'

/-- Something is chosen unless there is nothing, and no other has a higher priority. -/
lemma exists_primary?_eq {prices : List Observation} (h : prices ≠ []) :
    ∃ p, primary? priorities prices = some p ∧
      ∀ o ∈ prices, p.tickType.rankIn priorities ≤ o.tickType.rankIn priorities := by
  obtain ⟨first, rest, rfl⟩ := List.exists_cons_of_ne_nil h
  obtain ⟨p, hp, hfirst, hrest⟩ := exists_foldl_better_eq priorities rest first
  refine ⟨p, hp, fun o ho => ?_⟩
  rcases List.mem_cons.mp ho with rfl | ho
  · exact hfirst
  · exact hrest o ho

end Observation

namespace Desk

/-! ### One look -/

section Look

variable {d : Desk} {clocks : ZoneClocks} {loads : List Load} {symbol : Symbol} {periods : Nat}
  {resolution : Resolution} (hcatalog : d.catalog.Filed)
  (huniverse : d.securities.isUniverse symbol = false) (hresolution : resolution ≠ .tick)

include hcatalog

lemma symbol_of_mem_missing {found : LatestByType} {r : Request}
    (hr : r ∈ d.missing symbol periods resolution found) : r.symbol = symbol := by
  obtain ⟨_, r, hbar, rfl⟩ := mem_missing_iff.mp hr
  have hsymbol : r.symbol = symbol := symbol_of_mem_barRequests hcatalog hbar
  exact hsymbol

include huniverse hresolution

/-- What a look finds, and whether it finds all that was missing. -/
lemma value_lookForLatest (found : LatestByType) :
    (d.lookForLatest symbol periods resolution found).value =
      let requests := d.missing symbol periods resolution found
      if d.archive.failure = none then
        let found := (d.archive.slices requests).foldl (LatestByType.putSlice symbol requests) found
        (requests.all fun r => found.has r.tickType, found)
      else (requests.isEmpty, found) := by
  obtain ⟨planned, _, hlook⟩ := d.exists_lookForLatest_eq symbol periods hresolution found
  rw [hlook, Traced.value_bind, value_findLatest, delivery_missing hcatalog huniverse]

/-- A look delivers the requests for what is missing, if anything is. -/
lemma batches_lookForLatest (found : LatestByType) :
    (d.lookForLatest symbol periods resolution found).batches =
      let requests := d.missing symbol periods resolution found
      if requests = [] then [] else [requests] := by
  obtain ⟨planned, hquiet, hlook⟩ := d.exists_lookForLatest_eq symbol periods hresolution found
  rw [hlook, Traced.batches_bind, hquiet.batches, List.nil_append, batches_findLatest,
    delivery_missing hcatalog huniverse]

section Answered

variable (harchive : d.archive = .loaded clocks loads none)

include harchive

/-- Of a tick type of which nothing was found, a look finds the latest. -/
lemma isLatest_lookForLatest {found : LatestByType} {t : TickType} (ht : found.get? t = none) :
    IsLatest (PickedFor clocks (d.barRequests symbol periods resolution) (Load.log loads) t)
      ((d.lookForLatest symbol periods resolution found).value.2.get? t) := by
  have hsymbol : ∀ r ∈ d.missing symbol periods resolution found, r.symbol = symbol :=
    fun _ => symbol_of_mem_missing hcatalog
  rw [value_lookForLatest hcatalog huniverse hresolution, harchive]
  show IsLatest _ (LatestByType.get? (List.foldl _ _ _) t)
  rw [LatestByType.get?_putSlices, ht, Option.or_none]
  exact (isLatest_lastIn? clocks loads none hsymbol t).congr (pickedFor_missing_iff ht _)

/-- What was found stays. -/
lemma get?_lookForLatest {found : LatestByType} {t : TickType} {o : Observation}
    (ht : found.get? t = some o) :
    (d.lookForLatest symbol periods resolution found).value.2.get? t = some o := by
  have hsymbol : ∀ r ∈ d.missing symbol periods resolution found, r.symbol = symbol :=
    fun _ => symbol_of_mem_missing hcatalog
  have hlatest := isLatest_lastIn? clocks loads none hsymbol t
  rw [value_lookForLatest hcatalog huniverse hresolution, harchive]
  show LatestByType.get? (List.foldl _ _ _) t = _
  rw [LatestByType.get?_putSlices, ht]
  cases hlast : Slice.lastIn? ((Archive.loaded clocks loads none).slices
      (d.missing symbol periods resolution found)) symbol
      (d.missing symbol periods resolution found) t with
  | none => rfl
  | some o' =>
    -- nothing of the tick type was missing
    rw [hlast] at hlatest
    obtain ⟨⟨r, hr, rfl, _⟩, _⟩ := hlatest
    have hhas := (mem_missing_iff.mp hr).1
    rw [LatestByType.has_eq_isSome_get?, ht] at hhas
    cases hhas

end Answered

end Look

/-! ### Two looks -/

/-- An observation that one of the two looks asks for as the last known price of a tick type. -/
def Candidate (d : Desk) (log : List (Resolution × Observation)) (symbol : Symbol) (t : TickType)
    (o : Observation) : Prop :=
  let base := d.lookbackResolution symbol
  let bars (periods : Nat) := d.barRequests symbol periods base
  PickedFor d.archive.clocks (bars d.settings.lookback.initialPeriods) log t o ∨
    PickedFor d.archive.clocks (bars (d.settings.lookback.escalatedPeriods base)) log t o

instance (d : Desk) (log : List (Resolution × Observation)) (symbol : Symbol) (t : TickType)
    (o : Observation) : Decidable (d.Candidate log symbol t o) :=
  inferInstanceAs (Decidable (_ ∨ _))

section Looks

variable {d : Desk} {symbol : Symbol}

lemma Candidate.tickType {log : List (Resolution × Observation)} {t : TickType} {o : Observation}
    (h : d.Candidate log symbol t o) : o.tickType = t :=
  h.elim PickedFor.tickType PickedFor.tickType

/-- What is the latest in one look is no earlier than anything that another look asks for: what is
later than it lies within the range of both. -/
lemma endTime_le_of_isLatest (hcanonical : symbol.canonical = false) {clocks : ZoneClocks}
    {periods periods' : Nat} {resolution : Resolution} {log : List (Resolution × Observation)} {t : TickType}
    {o o' : Observation}
    (ho : IsLatest (PickedFor clocks (d.barRequests symbol periods resolution) log t) (some o))
    (ho' : PickedFor clocks (d.barRequests symbol periods' resolution) log t o') :
    o'.endTime ≤ o.endTime := by
  by_contra hlater
  have hlater : o.endTime < o'.endTime := Std.not_le.mp hlater
  obtain ⟨start, hstart⟩ := d.exists_startTime_eq hcanonical resolution periods
  obtain ⟨start', hbars⟩ := d.exists_barRequests_eq hcanonical resolution periods periods'
  obtain ⟨⟨r, hr, rfl, hpick⟩, hlatest⟩ := ho
  obtain ⟨_, hmem, htype, hpick'⟩ := ho'
  rw [hbars] at hmem
  obtain ⟨r', hr', rfl⟩ := List.mem_map.mp hmem
  obtain ⟨_, hwants⟩ := Request.exists_wants_of_mem_pick hpick
  obtain ⟨_, hwants'⟩ := Request.exists_wants_of_mem_pick hpick'
  have hafter : r'.startTime < o'.endTime := by
    rw [hstart r' hr', ← hstart r hr]
    exact Std.lt_trans hwants.after hlater
  have hupTo : o'.endTime ≤ r'.endTime := by
    rw [endTime_of_mem_barRequests hr']
    exact hwants'.upTo
  have hfirst : o' ∈ r'.pick clocks log := Request.mem_pick_of_withRange hpick' hafter hupTo
  exact Std.not_le.mpr hlater (hlatest o' ⟨r', hr', htype, hfirst⟩)

/-- Without subscriptions of a tick type there are none for any number of bars. -/
lemma not_pickedFor_of_forall_ne (hcanonical : symbol.canonical = false) {clocks : ZoneClocks}
    {periods : Nat} {resolution : Resolution} {t : TickType}
    (h : ∀ r ∈ d.barRequests symbol periods resolution, r.tickType ≠ t) (periods' : Nat)
    (log : List (Resolution × Observation)) (o : Observation) :
    ¬PickedFor clocks (d.barRequests symbol periods' resolution) log t o := by
  rintro ⟨_, hmem, htype, _⟩
  obtain ⟨start, hbars⟩ := d.exists_barRequests_eq hcanonical resolution periods periods'
  rw [hbars] at hmem
  obtain ⟨r, hr, rfl⟩ := List.mem_map.mp hmem
  exact h r hr htype

/-- The first look for the last known prices of a symbol. -/
def firstLook (d : Desk) (symbol : Symbol) : Traced (Bool × LatestByType) :=
  d.lookForLatest symbol d.settings.lookback.initialPeriods (d.lookbackResolution symbol) []

/-- The second look, for what was not found before. -/
def secondLook (d : Desk) (symbol : Symbol) (found : LatestByType) :
    Traced (Bool × LatestByType) :=
  let base := d.lookbackResolution symbol
  d.lookForLatest symbol (d.settings.lookback.escalatedPeriods base) base found

/-- The second look is taken unless the first is complete. -/
lemma latestByType_eq (hconnected : d.connected = true) (hcanonical : symbol.canonical = false) :
    d.latestByType symbol = (do
      let first ← d.firstLook symbol
      if first.1 then return first.2
      let base := d.lookbackResolution symbol
      Traced.notice (.lookbackEscalated symbol base
        (d.settings.lookback.escalatedPeriods base) first.2.length)
      let second ← d.secondLook symbol first.2
      return second.2) := by
  simp only [latestByType, hconnected, hcanonical]
  rfl

lemma value_latestByType (hconnected : d.connected = true) (hcanonical : symbol.canonical = false) :
    (d.latestByType symbol).value =
      if (d.firstLook symbol).value.1 then (d.firstLook symbol).value.2
      else (d.secondLook symbol (d.firstLook symbol).value.2).value.2 := by
  rw [latestByType_eq hconnected hcanonical, Traced.value_bind]
  split <;> rfl

lemma batches_latestByType (hconnected : d.connected = true)
    (hcanonical : symbol.canonical = false) :
    (d.latestByType symbol).batches = (d.firstLook symbol).batches ++
      if (d.firstLook symbol).value.1 then []
      else (d.secondLook symbol (d.firstLook symbol).value.2).batches := by
  rw [latestByType_eq hconnected hcanonical, Traced.batches_bind]
  split
  · rfl
  · rw [Traced.batches_bind, Traced.batches_bind]
    exact congrArg _ (List.append_nil _)

/-- Without an archive nothing is looked for, and neither is it for a canonical symbol. -/
lemma latestByType_eq_nil (h : d.connected = false ∨ symbol.canonical = true) :
    d.latestByType symbol = pure [] := by
  simp only [latestByType]
  rcases h with h | h
  · rw [h]
    rfl
  · rw [h, Bool.or_true]
    rfl

/-- A look leaves what was found under its tick types. -/
lemma keyed_lookForLatest (periods : Nat) (resolution : Resolution) {found : LatestByType}
    (h : found.Keyed) : (d.lookForLatest symbol periods resolution found).value.2.Keyed := by
  by_cases hresolution : resolution = .tick
  · rw [hresolution, value_lookForLatest_tick]
    exact h
  · obtain ⟨planned, _, hlook⟩ := d.exists_lookForLatest_eq symbol periods hresolution found
    rw [hlook, Traced.value_bind, value_findLatest]
    cases d.archive.failure with
    | some reason => exact h
    | none => exact h.putSlices _

lemma keyed_latestByType (hconnected : d.connected = true) (hcanonical : symbol.canonical = false) :
    (d.latestByType symbol).value.Keyed := by
  have hfirst : (d.firstLook symbol).value.2.Keyed :=
    keyed_lookForLatest _ _ LatestByType.keyed_nil
  rw [value_latestByType hconnected hcanonical]
  split
  · exact hfirst
  · exact keyed_lookForLatest _ _ hfirst

/-- The prices are what was found, one of each tick type. -/
lemma nodup_lastKnownPrices (hconnected : d.connected = true)
    (hcanonical : symbol.canonical = false) :
    ((d.lastKnownPrices symbol).value.map (·.tickType)).Nodup := by
  have hkeyed : (d.latestByType symbol).value.Keyed := keyed_latestByType hconnected hcanonical
  have hperm : (d.lastKnownPrices symbol).value.Perm (d.latestByType symbol).value.observations :=
    List.mergeSort_perm _ _
  rw [(hperm.map _).nodup_iff, hkeyed.map_tickType]
  exact hkeyed.nodup

lemma mem_lastKnownPrices_iff (hconnected : d.connected = true)
    (hcanonical : symbol.canonical = false) {o : Observation} :
    o ∈ (d.lastKnownPrices symbol).value ↔
      (d.latestByType symbol).value.get? o.tickType = some o := by
  have hperm : (d.lastKnownPrices symbol).value.Perm (d.latestByType symbol).value.observations :=
    List.mergeSort_perm _ _
  rw [hperm.mem_iff]
  exact (keyed_latestByType hconnected hcanonical).mem_observations_iff

section Answered

variable {clocks : ZoneClocks} {loads : List Load} (hcatalog : d.catalog.Filed)
  (harchive : d.archive = .loaded clocks loads none) (hconnected : d.connected = true)
  (hcanonical : symbol.canonical = false) (huniverse : d.securities.isUniverse symbol = false)
  (hbase : d.lookbackResolution symbol ≠ .tick)

include hcatalog harchive huniverse hbase in
/-- A first look that is complete found something of every tick type that it asked for. -/
lemma get?_firstLook_ne_none (hcomplete : (d.firstLook symbol).value.1 = true) {r : Request}
    (hr : r ∈ d.barRequests symbol d.settings.lookback.initialPeriods
      (d.lookbackResolution symbol)) :
    (d.firstLook symbol).value.2.get? r.tickType ≠ none := by
  rw [firstLook, value_lookForLatest hcatalog huniverse hbase, harchive] at hcomplete ⊢
  have hmissing : r.unfilled ∈ d.missing symbol d.settings.lookback.initialPeriods
      (d.lookbackResolution symbol) [] :=
    mem_missing_iff.mpr ⟨rfl, r, hr, rfl⟩
  have hhas := List.all_eq_true.mp hcomplete r.unfilled hmissing
  rw [LatestByType.has_eq_isSome_get?] at hhas
  exact Option.isSome_iff_ne_none.mp hhas

include hcatalog harchive huniverse hbase in
/-- The first look finds the latest of what it asks for. -/
lemma isLatest_firstLook (t : TickType) :
    IsLatest (PickedFor clocks (d.barRequests symbol d.settings.lookback.initialPeriods
      (d.lookbackResolution symbol)) (Load.log loads) t) ((d.firstLook symbol).value.2.get? t) :=
  isLatest_lookForLatest hcatalog huniverse hbase harchive (LatestByType.get?_nil t)

include hcatalog harchive hconnected hcanonical huniverse hbase

/-- Together the two looks find the latest candidate of each tick type. -/
lemma isLatest_latestByType (t : TickType) :
    IsLatest (d.Candidate (Load.log loads) symbol t) ((d.latestByType symbol).value.get? t) := by
  obtain rfl : d.archive.clocks = clocks := by rw [harchive, Archive.clocks_loaded]
  have hfirst := isLatest_firstLook hcatalog harchive huniverse hbase t
  rw [value_latestByType hconnected hcanonical]
  cases ho : (d.firstLook symbol).value.2.get? t with
  | some o =>
    rw [ho] at hfirst
    -- it stays, and nothing that the second look would find surpasses it
    have hstays : LatestByType.get? (if (d.firstLook symbol).value.1 then
        (d.firstLook symbol).value.2
        else (d.secondLook symbol (d.firstLook symbol).value.2).value.2) t = some o := by
      split
      · exact ho
      · exact get?_lookForLatest hcatalog huniverse hbase harchive ho
    rw [hstays]
    refine ⟨.inl hfirst.1, fun o' ho' => ?_⟩
    rcases ho' with ho' | ho'
    · exact hfirst.2 o' ho'
    · exact endTime_le_of_isLatest hcanonical hfirst ho'
  | none =>
    rw [ho] at hfirst
    split
    next hcomplete =>
      have hne : ∀ r ∈ d.barRequests symbol d.settings.lookback.initialPeriods
          (d.lookbackResolution symbol), r.tickType ≠ t := by
        rintro r hr rfl
        exact get?_firstLook_ne_none hcatalog harchive huniverse hbase hcomplete hr ho
      rw [ho]
      intro o ho'
      exact ho'.elim (hfirst o) (not_pickedFor_of_forall_ne hcanonical hne _ _ o)
    next =>
      refine (isLatest_lookForLatest hcatalog huniverse hbase harchive ho).congr fun o => ?_
      exact ⟨.inr, fun h => h.resolve_left (hfirst o)⟩

end Answered

end Looks

/-- However a desk came about whose queries are answered, for a symbol that is neither canonical nor
the placeholder of a universe, and unless ticks would be counted: the last known prices are one
observation of each tick type that has a candidate and none of any other, each of them a candidate
that no other of its tick type surpasses; they are in the order of the times at which they begin and
then of the priorities of their tick types; and the last known price is one of them that no other
precedes in priority, or none if there are none. -/
theorem lastKnownPrices_latest (d : Desk) (changes : List Change)
    (hconnected : (d.blank.afterAll changes).connected = true)
    (hfailure : (d.blank.afterAll changes).archive.failure = none) {symbol : Symbol}
    (hcanonical : symbol.canonical = false)
    (huniverse : (d.blank.afterAll changes).securities.isUniverse symbol = false)
    (hbase : (d.blank.afterAll changes).lookbackResolution symbol ≠ .tick) :
    let desk := d.blank.afterAll changes
    let log := Load.log (changes.filterMap Change.load?)
    let rank (o : Observation) := o.tickType.rankIn (desk.catalog.tickTypesOf symbol.securityType)
    let prices := (desk.lastKnownPrices symbol).value
    let price := (desk.lastKnownPrice? symbol).value
    (prices.map (·.tickType)).Nodup ∧
    (∀ t, t ∈ prices.map (·.tickType) ↔ ∃ o, desk.Candidate log symbol t o) ∧
    (∀ p ∈ prices, desk.Candidate log symbol p.tickType p ∧
      ∀ o, desk.Candidate log symbol p.tickType o → o.endTime ≤ p.endTime) ∧
    prices.Pairwise (fun p p' => p.time < p'.time ∨ p.time = p'.time ∧ rank p ≤ rank p') ∧
    (price = none ↔ prices = []) ∧
    ∀ p, price = some p → p ∈ prices ∧ ∀ p' ∈ prices, rank p ≤ rank p' := by
  intro desk log rank prices price
  obtain ⟨hcatalog, _⟩ := consistent_afterAll d changes
  have harchive := (consistent_afterAll d changes).archive_eq hfailure
  let found := (desk.latestByType symbol).value
  have hlatest : ∀ t, IsLatest (desk.Candidate log symbol t) (found.get? t) :=
    isLatest_latestByType hcatalog harchive hconnected hcanonical huniverse hbase
  have hmem : ∀ o, o ∈ prices ↔ found.get? o.tickType = some o := fun _ =>
    mem_lastKnownPrices_iff hconnected hcanonical
  refine ⟨nodup_lastKnownPrices hconnected hcanonical, fun t => ⟨fun ht => ?_, fun ht => ?_⟩,
    fun p hp => ?_, Observation.pairwise_arrange _ _, ?_, fun p hp => ?_⟩
  · obtain ⟨o, ho, rfl⟩ := List.mem_map.mp ht
    have hcandidate := hlatest o.tickType
    rw [(hmem o).mp ho] at hcandidate
    exact ⟨o, hcandidate.1⟩
  · obtain ⟨o, ho⟩ := ht
    have hcandidate := hlatest t
    cases hget : found.get? t with
    | none =>
      rw [hget] at hcandidate
      exact absurd ho (hcandidate o)
    | some p =>
      rw [hget] at hcandidate
      have htype : p.tickType = t := hcandidate.1.tickType
      exact List.mem_map.mpr ⟨p, (hmem p).mpr (htype ▸ hget), htype⟩
  · have hcandidate := hlatest p.tickType
    rw [(hmem p).mp hp] at hcandidate
    exact hcandidate
  · refine ⟨fun hnone => ?_, fun hnil => ?_⟩
    · by_contra hne
      obtain ⟨p, hp, _⟩ := Observation.exists_primary?_eq
        (desk.catalog.tickTypesOf symbol.securityType) hne
      cases hnone.symm.trans hp
    · show Observation.primary? _ prices = none
      rw [hnil]
      rfl
  · have hmem : p ∈ prices := Observation.mem_of_primary? hp
    obtain ⟨p', hp', hrank⟩ := Observation.exists_primary?_eq
      (desk.catalog.tickTypesOf symbol.securityType) (List.ne_nil_of_mem hmem)
    obtain rfl : p = p' := Option.some.inj (hp.symm.trans hp')
    exact ⟨hmem, hrank⟩

/-- A bar without quotes, complete in the afternoon before the last day. -/
def quotesOfDayBefore : Observation :=
  .quoteBar ⟨Planner.spy, .first, ⟨Date.last.previous?.getD .first,
    (TimeOfDay.ofNumbers? 50400 0).getD .midnight⟩, none, none⟩

/-- A bar of trades is found in the first look, a bar of quotes only in the second. -/
theorem lastKnownPrices_latest_of_bars :
    let changes : List Change := [.load .minute [quotesOfDayBefore, barOfLastDay 0]]
    let desk := lastMidnight.blank.afterAll changes
    let prices := (desk.lastKnownPrices Planner.spy).value
    desk.connected = true ∧ desk.archive.failure = none ∧ Planner.spy.canonical = false ∧
      desk.securities.isUniverse Planner.spy = false ∧
      desk.lookbackResolution Planner.spy ≠ .tick ∧
      .trade ∈ prices.map (·.tickType) ∧ .quote ∈ prices.map (·.tickType) := by
  intro changes desk prices
  have huniverse : desk.securities.isUniverse Planner.spy = false := by decide +kernel
  have hbase : desk.lookbackResolution Planner.spy ≠ .tick := by decide +kernel
  have hprices := (lastKnownPrices_latest lastMidnight changes rfl rfl rfl huniverse hbase).2.1
  exact ⟨rfl, rfl, rfl, huniverse, hbase,
    (hprices .trade).mpr ⟨barOfLastDay 0, by decide +kernel⟩,
    (hprices .quote).mpr ⟨quotesOfDayBefore, by decide +kernel⟩⟩

end Desk

end MarketHistory
