import MarketHistory.Proofs.Desk.LastPrices
import MarketHistory.Proofs.Subscription.Finest

/-!
# The second look

What is delivered for the last known prices of a symbol: nothing, or the requests of the first look,
and after them, if the archive failed or has nothing for some of them, these again with another
start (`batches_lastKnownPrices`). The second batch depends on the answer to the first only through
the tick types that are left open, which the log tells (`has_firstLook_eq_false_iff`).
-/

namespace MarketHistory

/-! ### The resolution of a look -/

namespace Desk

/-- The resolution of a look is the minimum if the user has no subscription, or else that of the
finest subscription unless the minimum is coarser. -/
lemma lookbackResolution_eq (d : Desk) (symbol : Symbol) :
    let minimum := d.settings.lookback.minimumResolution
    let subscriptions := d.catalog.userSubscriptionsOf symbol
    subscriptions = [] ∧ d.lookbackResolution symbol = minimum ∨
      ∃ s ∈ subscriptions, (∀ s' ∈ subscriptions, s.resolution ≤ s'.resolution) ∧
        d.lookbackResolution symbol = s.resolution.coarser minimum := by
  intro minimum subscriptions
  show _ ∧ d.settings.lookback.baseResolution
      (Resolution.finest? (subscriptions.map (·.resolution))) = _ ∨
    ∃ s ∈ subscriptions, _ ∧ d.settings.lookback.baseResolution
      (Resolution.finest? (subscriptions.map (·.resolution))) = _
  cases subscriptions with
  | nil => exact .inl ⟨rfl, rfl⟩
  | cons first rest =>
    obtain ⟨finest, hmem, hfinest, hle⟩ :=
      Resolution.exists_finest?_eq first.resolution (rest.map (·.resolution))
    rw [← List.map_cons (f := Subscription.resolution)] at hmem hfinest hle
    obtain ⟨s, hs, rfl⟩ := List.mem_map.mp hmem
    refine .inr ⟨s, hs, fun s' hs' => hle _ (List.mem_map_of_mem hs'), ?_⟩
    rw [hfinest]
    rfl

end Desk

/-! ### What is left open -/

/-- Nothing of a log is asked for by the requests of a tick type. -/
def Unanswered (clocks : ZoneClocks) (requests : List Request)
    (log : List (Resolution × Observation)) (t : TickType) : Prop :=
  ∀ r ∈ requests, r.tickType = t → r.pick clocks log = []

instance (clocks : ZoneClocks) (requests : List Request) (log : List (Resolution × Observation))
    (t : TickType) : Decidable (Unanswered clocks requests log t) :=
  inferInstanceAs (Decidable (∀ r ∈ requests, r.tickType = t → r.pick clocks log = []))

lemma unanswered_iff {clocks : ZoneClocks} {requests : List Request}
    {log : List (Resolution × Observation)} {t : TickType} :
    Unanswered clocks requests log t ↔ ∀ o, ¬PickedFor clocks requests log t o := by
  constructor
  · rintro h o ⟨r, hr, ht, ho⟩
    rw [h r hr ht] at ho
    cases ho
  · intro h r hr ht
    exact List.eq_nil_iff_forall_not_mem.mpr fun o ho => h o ⟨r, hr, ht, ho⟩

namespace Desk

section Looks

variable {d : Desk} {clocks : ZoneClocks} {loads : List Load} {symbol : Symbol}
  (hcatalog : d.catalog.Filed) (huniverse : d.securities.isUniverse symbol = false)
  (hbase : d.lookbackResolution symbol ≠ .tick)

/-- The requests of the first look. -/
def firstRequests (d : Desk) (symbol : Symbol) : List Request :=
  d.missing symbol d.settings.lookback.initialPeriods (d.lookbackResolution symbol) []

lemma firstRequests_eq (d : Desk) (symbol : Symbol) :
    d.firstRequests symbol = (d.barRequests symbol d.settings.lookback.initialPeriods
      (d.lookbackResolution symbol)).map Request.unfilled :=
  List.filter_eq_self.mpr fun _ _ => rfl

lemma plain_of_mem_firstRequests {r : Request} (hr : r ∈ d.firstRequests symbol) :
    r.fillForward = none ∧ r.endTime = d.now ∧ r.resolution = d.lookbackResolution symbol := by
  rw [firstRequests_eq] at hr
  obtain ⟨bar, hbar, rfl⟩ := List.mem_map.mp hr
  have hend : bar.endTime = d.now := endTime_of_mem_barRequests hbar
  have hresolution : bar.resolution = d.lookbackResolution symbol :=
    resolution_of_mem_barRequests hbar
  exact ⟨rfl, hend, hresolution⟩

include hcatalog huniverse hbase

/-- After the first look a tick type is open exactly if the archive failed or has nothing of it that
was asked for. -/
lemma has_firstLook_eq_false_iff {failure : Option String}
    (harchive : d.archive = .loaded clocks loads failure) (t : TickType) :
    (d.firstLook symbol).value.2.has t = false ↔
      failure ≠ none ∨ Unanswered clocks (d.firstRequests symbol) (Load.log loads) t := by
  cases failure with
  | some reason =>
    rw [firstLook, value_lookForLatest hcatalog huniverse hbase, harchive]
    exact iff_of_true rfl (.inl (Option.some_ne_none reason))
  | none =>
    have hlatest := isLatest_firstLook hcatalog harchive huniverse hbase t
    rw [LatestByType.has_eq_isSome_get?, unanswered_iff]
    simp only [ne_eq, not_true_eq_false, false_or, firstRequests,
      pickedFor_missing_iff (LatestByType.get?_nil t)]
    show Option.isSome (LatestByType.get? (d.firstLook symbol).value.2 t) = false ↔ _
    cases hget : (d.firstLook symbol).value.2.get? t with
    | none =>
      rw [hget] at hlatest
      exact iff_of_true rfl hlatest
    | some o =>
      rw [hget] at hlatest
      exact iff_of_false Bool.noConfusion fun h => h o hlatest.1

/-- The first look is incomplete exactly if it left a tick type open that it asked for. -/
lemma firstLook_incomplete_iff :
    (d.firstLook symbol).value.1 = false ↔
      ∃ r ∈ d.firstRequests symbol, (d.firstLook symbol).value.2.has r.tickType = false := by
  rw [firstLook, value_lookForLatest hcatalog huniverse hbase, ← firstRequests]
  cases d.archive.failure with
  | some reason =>
    show (d.firstRequests symbol).isEmpty = false ↔ ∃ r ∈ d.firstRequests symbol, false = false
    cases d.firstRequests symbol <;> simp
  | none => exact List.all_eq_false.trans (by simp)

omit hcatalog huniverse hbase in
/-- What is missing after the first look are those of its requests whose tick type is open, with
another start. -/
lemma exists_missing_eq (hcanonical : symbol.canonical = false) (periods : Nat)
    (found : LatestByType) :
    ∃ start, d.missing symbol periods (d.lookbackResolution symbol) found =
      ((d.firstRequests symbol).filter fun r => !found.has r.tickType).map fun r =>
        { r with startTime := start } := by
  obtain ⟨start, hbars⟩ := d.exists_barRequests_eq hcanonical (d.lookbackResolution symbol)
    d.settings.lookback.initialPeriods periods
  have hrestart : (d.barRequests symbol periods (d.lookbackResolution symbol)).map
      Request.unfilled = (d.firstRequests symbol).map fun r => { r with startTime := start } := by
    rw [hbars, firstRequests_eq, List.map_map, List.map_map]
    refine List.map_congr_left fun r hr => ?_
    have hend : r.endTime = d.now := endTime_of_mem_barRequests hr
    rw [Function.comp_apply, Function.comp_apply, ← hend]
    rfl
  refine ⟨start, ?_⟩
  rw [missing, hrestart, List.filter_map]
  rfl

/-- What the two looks deliver: the requests of the first and, if it leaves any of them open, those
once more with another start. -/
lemma exists_batches_latestByType_eq (hconnected : d.connected = true)
    (hcanonical : symbol.canonical = false) {failure : Option String}
    (harchive : d.archive = .loaded clocks loads failure) (hrequests : d.firstRequests symbol ≠ []) :
    let first := d.firstRequests symbol
    let left := first.filter fun r =>
      failure ≠ none ∨ Unanswered clocks first (Load.log loads) r.tickType
    ∃ start, (d.latestByType symbol).batches = first ::
      if left = [] then [] else [left.map fun r => { r with startTime := start }] := by
  intro first left
  let found := (d.firstLook symbol).value.2
  obtain ⟨start, hmissing⟩ := exists_missing_eq hcanonical
    (d.settings.lookback.escalatedPeriods (d.lookbackResolution symbol)) found
  -- what is still missing is read off the log instead of what was found
  have hleft : (first.filter fun r => !found.has r.tickType) = left := by
    refine List.filter_congr fun r _ => ?_
    have hopen := has_firstLook_eq_false_iff hcatalog huniverse hbase harchive r.tickType
    rw [← Bool.not_eq_true'] at hopen
    exact Bool.eq_iff_iff.mpr (hopen.trans decide_eq_true_iff.symm)
  have hfirst : (d.firstLook symbol).batches = [first] := by
    rw [firstLook, batches_lookForLatest hcatalog huniverse hbase]
    exact if_neg hrequests
  have hsecond : (d.secondLook symbol found).batches =
      if left = [] then [] else [left.map fun r => { r with startTime := start }] := by
    rw [secondLook, batches_lookForLatest hcatalog huniverse hbase, hmissing]
    show (if List.map _ (first.filter fun r => !found.has r.tickType) = [] then _ else _) = _
    rw [hleft]
    simp only [List.map_eq_nil_iff]
  have hnone : (d.firstLook symbol).value.1 = true → left = [] := by
    intro hcomplete
    rw [← hleft]
    refine List.filter_eq_nil_iff.mpr fun r hr hopen => ?_
    have hincomplete := (firstLook_incomplete_iff hcatalog huniverse hbase).mpr
      ⟨r, hr, Bool.not_eq_true' _ |>.mp hopen⟩
    rw [hcomplete] at hincomplete
    cases hincomplete
  refine ⟨start, ?_⟩
  rw [batches_latestByType hconnected hcanonical, hfirst, List.singleton_append]
  refine congrArg (first :: ·) ?_
  split
  next hcomplete => rw [if_pos (hnone hcomplete)]
  next => exact hsecond

/-- There is a second batch exactly if the archive failed or left something open. -/
lemma exists_batches_latestByType (hconnected : d.connected = true)
    (hcanonical : symbol.canonical = false) {failure : Option String}
    (harchive : d.archive = .loaded clocks loads failure) (hrequests : d.firstRequests symbol ≠ []) :
    let first := d.firstRequests symbol
    let log := Load.log loads
    ∃ start rest, (d.latestByType symbol).batches = first :: rest ∧ rest.length ≤ 1 ∧
      (rest ≠ [] ↔ failure ≠ none ∨ ∃ r ∈ first, Unanswered clocks first log r.tickType) ∧
      ∀ second ∈ rest, second =
        (first.filter fun r => failure ≠ none ∨ Unanswered clocks first log r.tickType).map
          fun r => { r with startTime := start } := by
  intro first log
  obtain ⟨start, hbatches⟩ := exists_batches_latestByType_eq hcatalog huniverse hbase hconnected
    hcanonical harchive hrequests
  have hopen : (first.filter fun r => failure ≠ none ∨ Unanswered clocks first log r.tickType) = [] ↔
      ¬(failure ≠ none ∨ ∃ r ∈ first, Unanswered clocks first log r.tickType) := by
    obtain ⟨r, hr⟩ := List.exists_mem_of_ne_nil first hrequests
    rw [List.filter_eq_nil_iff]
    simp only [decide_eq_true_eq, not_or, not_exists, not_and]
    exact ⟨fun h => ⟨(h r hr).1, fun r hr => (h r hr).2⟩, fun h r hr => ⟨h.1, h.2 r hr⟩⟩
  refine ⟨start, _, hbatches, ?_⟩
  split
  next hnone =>
    exact ⟨Nat.zero_le 1, iff_of_false (fun h => h rfl) (hopen.mp hnone), fun _ h => nomatch h⟩
  next hsome =>
    exact ⟨Nat.le_refl 1, iff_of_true (List.cons_ne_nil _ _) (not_not.mp (hopen.not.mp hsome)),
      fun _ hsecond => List.mem_singleton.mp hsecond⟩

omit hbase in
/-- Nothing is delivered where nothing is looked for or there is nothing to request. -/
lemma batches_latestByType_eq_nil
    (h : d.connected = false ∨ symbol.canonical = true ∨ d.lookbackResolution symbol = .tick ∨
      d.firstRequests symbol = []) :
    (d.latestByType symbol).batches = [] := by
  by_cases hlooks : d.connected = false ∨ symbol.canonical = true
  · rw [latestByType_eq_nil hlooks]
    rfl
  · obtain ⟨hconnected, hcanonical⟩ := not_or.mp hlooks
    rw [Bool.not_eq_false] at hconnected
    rw [Bool.not_eq_true] at hcanonical
    by_cases hbase : d.lookbackResolution symbol = .tick
    · rw [batches_latestByType hconnected hcanonical, firstLook, hbase, batches_lookForLatest_tick,
        value_lookForLatest_tick, secondLook, hbase, batches_lookForLatest_tick]
      rfl
    · have hrequests : d.firstRequests symbol = [] := by
        simpa [hconnected, hcanonical, hbase] using h
      have hcomplete : (d.firstLook symbol).value.1 = true := by
        rw [← Bool.not_eq_false, firstLook_incomplete_iff hcatalog huniverse hbase, hrequests]
        simp
      rw [batches_latestByType hconnected hcanonical, hcomplete, firstLook,
        batches_lookForLatest hcatalog huniverse hbase, ← firstRequests, hrequests]
      rfl

end Looks

lemma batches_answer_lastPrices (d : Desk) (symbol : Symbol) :
    (d.answer (.lastPrices symbol)).run.batches = (d.latestByType symbol).batches := by
  simp [answer, lastKnownPrices]

end Desk

end MarketHistory
