import MarketHistory.Proofs.Archive.Timeline

/-!
# The archive as a log

What an archive answers follows from the log of what was loaded into it: of each series it holds
the logged observations of that symbol and resolution, filed by the time at which they are
complete. Every observation in an answer lies within the range of a request it answers
(`mem_matching`), and archives with logs that agree up to a time answer alike the requests that
end by then (`fetch_congr`).
-/

namespace MarketHistory

/-! ### Logs -/

/-- Observations that are loaded together, and their resolution. -/
structure Load where
  resolution   : Resolution
  observations : List Observation
deriving DecidableEq

/-- The single observations in the order in which they are loaded, each with its resolution. -/
def Load.log (loads : List Load) : List (Resolution × Observation) :=
  loads.flatMap fun l => l.observations.map fun o => (l.resolution, o)

/-- The part of the log that is complete at a time. -/
def Load.logUpTo (now : Instant) (loads : List Load) : List (Resolution × Observation) :=
  (log loads).filter fun e => e.2.endTime ≤ now

/-- The logged observations that belong to a series. -/
def SeriesKey.select (key : SeriesKey) (log : List (Resolution × Observation)) :
    List Observation :=
  (log.filter fun e => (⟨e.2.symbol, e.1⟩ : SeriesKey) = key).map (·.2)

lemma SeriesKey.select_cons (key : SeriesKey) (e : Resolution × Observation)
    (log : List (Resolution × Observation)) :
    key.select (e :: log) = key.select [e] ++ key.select log := by
  rw [← List.singleton_append]
  simp only [select, List.filter_append, List.map_append]

/-- Choosing a series and choosing a time can be done in either order. -/
lemma SeriesKey.filter_select (key : SeriesKey) (p : Observation → Bool)
    (log : List (Resolution × Observation)) :
    (key.select log).filter p = key.select (log.filter fun e => p e.2) := by
  simp only [select]
  rw [List.filter_map, List.filter_comm]
  rfl

namespace Archive

/-! ### Series -/

/-- The timeline of a series; it is empty where nothing was loaded. -/
def seriesOf (a : Archive) (key : SeriesKey) : Timeline := (a.series.get? key).getD .empty

@[simp]
lemma seriesOf_empty (clocks : ZoneClocks) (key : SeriesKey) :
    (empty clocks).seriesOf key = .empty := rfl

/-- An observation is stored in its own series and in no other. -/
lemma seriesOf_store (a : Archive) (resolution : Resolution) (o : Observation) (key : SeriesKey) :
    (a.store resolution o).seriesOf key =
      (a.seriesOf key).record (key.select [(resolution, o)]) := by
  simp only [seriesOf, store, SortedMap.get?_alter, Std.LawfulEqOrd.compare_eq_iff_eq]
  by_cases h : key = ⟨o.symbol, resolution⟩
  · simp [h, SeriesKey.select, Timeline.record]
  · simp [h, Ne.symm h, SeriesKey.select, Timeline.record]

/-- The archive after some loads, one after the other. -/
def loadAll (a : Archive) (loads : List Load) : Archive :=
  loads.foldl (fun a l => (a.load l.resolution l.observations).value) a

/-- What several loads bring is stored observation by observation. -/
lemma loadAll_eq_foldl_store (a : Archive) (loads : List Load) :
    a.loadAll loads = (Load.log loads).foldl (fun a e => a.store e.1 e.2) a := by
  induction loads generalizing a with
  | nil => rfl
  | cons l loads ih =>
    have := ih (a.load l.resolution l.observations).value
    rw [loadAll, List.foldl_cons, ← loadAll, this, Load.log, Load.log, List.flatMap_cons,
      List.foldl_append, List.foldl_map]
    rfl

lemma seriesOf_foldl_store (a : Archive) (log : List (Resolution × Observation))
    (key : SeriesKey) :
    (log.foldl (fun a e => a.store e.1 e.2) a).seriesOf key =
      (a.seriesOf key).record (key.select log) := by
  induction log generalizing a with
  | nil => rfl
  | cons e log ih =>
    rw [List.foldl_cons, ih, seriesOf_store, key.select_cons e log]
    simp only [Timeline.record, List.foldl_append]

/-- What is stored leaves the clocks as they are. -/
lemma clocks_foldl_store (a : Archive) (log : List (Resolution × Observation)) :
    (log.foldl (fun a e => a.store e.1 e.2) a).clocks = a.clocks := by
  induction log generalizing a with
  | nil => rfl
  | cons e log ih => exact ih (a.store e.1 e.2)

/-- After some loads a series holds what it held and then what the log has of it. -/
lemma seriesOf_loadAll (a : Archive) (loads : List Load) (key : SeriesKey) :
    (a.loadAll loads).seriesOf key = (a.seriesOf key).record (key.select (Load.log loads)) := by
  rw [loadAll_eq_foldl_store, seriesOf_foldl_store]

/-! ### Filed archives -/

/-- Every observation stands at the time at which it is complete. -/
def Filed (a : Archive) : Prop := ∀ key, (a.seriesOf key).Filed

lemma filed_empty (clocks : ZoneClocks) : (empty clocks).Filed := fun _ => Timeline.filed_empty

lemma Filed.loadAll {a : Archive} (h : a.Filed) (loads : List Load) : (a.loadAll loads).Filed := by
  intro key
  rw [seriesOf_loadAll]
  exact (h key).record _

/-- One load keeps an archive filed. -/
lemma Filed.load {a : Archive} (h : a.Filed) (resolution : Resolution) (os : List Observation) :
    (a.load resolution os).value.Filed :=
  h.loadAll [⟨resolution, os⟩]

/-! ### Loaded archives -/

/-- The archive with some clocks that was loaded with observations and answers, or fails, as
given. -/
def loaded (clocks : ZoneClocks) (loads : List Load) (failure : Option String) : Archive :=
  { (empty clocks).loadAll loads with failure }

@[simp]
lemma clocks_loaded (clocks : ZoneClocks) (loads : List Load) (failure : Option String) :
    (loaded clocks loads failure).clocks = clocks := by
  show ((empty clocks).loadAll loads).clocks = clocks
  rw [loadAll_eq_foldl_store, clocks_foldl_store]
  rfl

lemma completedAt_loaded (clocks : ZoneClocks) (loads : List Load) (failure : Option String)
    (key : SeriesKey) (time : Instant) :
    ((loaded clocks loads failure).seriesOf key).completedAt time =
      (key.select (Load.log loads)).filter (·.endTime = time) := by
  have hseries : (loaded clocks loads failure).seriesOf key =
      ((empty clocks).loadAll loads).seriesOf key := rfl
  rw [hseries, seriesOf_loadAll, seriesOf_empty, Timeline.completedAt_record,
    Timeline.completedAt_empty, List.nil_append]

lemma filed_loaded (clocks : ZoneClocks) (loads : List Load) (failure : Option String) :
    (loaded clocks loads failure).Filed :=
  (filed_empty clocks).loadAll loads

/-! ### Answers -/

/-- The observations that answer a request are part of one series. -/
lemma matching_eq (a : Archive) (r : Request) :
    a.matching r =
      if r.isEmptyRange then []
      else ((a.seriesOf ⟨r.symbol, r.resolution⟩).between r.startTime r.endTime).filter
        (answers a.clocks r) := by
  simp only [matching, inRange, seriesOf]
  cases a.series.get? ⟨r.symbol, r.resolution⟩ <;> split <;> rfl

/-- An observation that answers a request lies within its range. -/
lemma Filed.mem_matching {a : Archive} (h : a.Filed) {r : Request} {o : Observation}
    (ho : o ∈ a.matching r) : r.startTime < o.endTime ∧ o.endTime ≤ r.endTime := by
  rw [matching_eq] at ho
  split at ho
  · simp at ho
  · exact (h _).mem_between (List.mem_filter.mp ho).1

/-- Two filed archives with the same clocks that hold the same up to the end of a request answer it
alike. -/
lemma matching_congr {a a' : Archive} (hclocks : a.clocks = a'.clocks) (h : a.Filed) (h' : a'.Filed)
    {r : Request}
    (heq : ∀ key, ∀ time ≤ r.endTime,
      (a.seriesOf key).completedAt time = (a'.seriesOf key).completedAt time) :
    a.matching r = a'.matching r := by
  rw [matching_eq, matching_eq, hclocks]
  congr 2
  exact Timeline.between_congr (h _) (h' _) (heq _)

/-- An observation in an answer answers one of the requests. -/
lemma exists_mem_matching_of_mem_slices {a : Archive} {batch : List Request} {s : Slice}
    (hs : s ∈ a.slices batch) {o : Observation} (ho : o ∈ s.data) :
    ∃ r ∈ batch, o ∈ a.matching r := by
  simp only [slices, Timeline.slices, List.mem_map] at hs
  obtain ⟨e, he, rfl⟩ := hs
  rw [← Timeline.completedAt_of_mem he, Timeline.completedAt_record] at ho
  simp only [Timeline.completedAt_empty, List.nil_append, List.mem_filter] at ho
  exact List.mem_flatMap.mp ho.1

/-- Archives that answer each request of a batch alike, and fail alike, answer the batch alike. -/
lemma fetch_congr {a a' : Archive} {batch : List Request} (hf : a.failure = a'.failure)
    (heq : ∀ r ∈ batch, a.matching r = a'.matching r) : a.fetch batch = a'.fetch batch := by
  have : a.slices batch = a'.slices batch := by
    simp only [slices]
    rw [List.flatMap_congr heq]
  simp only [fetch, hf, this]

end Archive

end MarketHistory
