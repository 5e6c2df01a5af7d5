import MarketHistory.Proofs.Archive.Log

/-!
# Answers as selections from the log

What a request asks for is a part of the log of what was loaded (`Request.Wants`). An archive
that answers at all returns, in slices of increasing time, what the requests of a batch ask for:
request by request and, within a request, in the order of loading (`fetch_loaded`).
-/

namespace MarketHistory

/-! ### What a request asks for -/

/-- The request asks for an observation that was loaded at a resolution: both fit, the observation
is complete within the range of the request and, for intraday data of regular sessions, begins
while the exchange is open, as far as that can be told. -/
structure Request.Wants (clocks : ZoneClocks) (r : Request) (resolution : Resolution)
    (o : Observation) : Prop where
  symbol     : o.symbol = r.symbol
  resolution : resolution = r.resolution
  dataType   : r.dataType = .base ∨ o.dataType = r.dataType
  tickType   : o.tickType = r.tickType
  after      : r.startTime < o.endTime
  upTo       : o.endTime ≤ r.endTime
  session    : r.resolution < .daily → r.extendedHours = false →
    r.hours.isOpen clocks o.time = true

instance (clocks : ZoneClocks) (r : Request) (resolution : Resolution) (o : Observation) :
    Decidable (r.Wants clocks resolution o) :=
  decidable_of_iff
    (o.symbol = r.symbol ∧ resolution = r.resolution ∧
      (r.dataType = .base ∨ o.dataType = r.dataType) ∧ o.tickType = r.tickType ∧
      r.startTime < o.endTime ∧ o.endTime ≤ r.endTime ∧
      (r.resolution < .daily → r.extendedHours = false → r.hours.isOpen clocks o.time = true))
    ⟨fun ⟨h₁, h₂, h₃, h₄, h₅, h₆, h₇⟩ => ⟨h₁, h₂, h₃, h₄, h₅, h₆, h₇⟩,
      fun ⟨h₁, h₂, h₃, h₄, h₅, h₆, h₇⟩ => ⟨h₁, h₂, h₃, h₄, h₅, h₆, h₇⟩⟩

/-- The part of a log that a request asks for, in the order of the log. -/
def Request.pick (clocks : ZoneClocks) (r : Request) (log : List (Resolution × Observation)) :
    List Observation :=
  (log.filter fun e => r.Wants clocks e.1 e.2).map (·.2)

/-- The observations of the slices of one time. -/
def Slice.dataAt (slices : List Slice) (time : Instant) : List Observation :=
  (slices.filter (·.time = time)).flatMap Slice.data

namespace TradingHours

variable {h : TradingHours}

lemma isAlwaysOpen_iff : h.isAlwaysOpen = true ↔
    h.closedOnWeekends = false ∧ h.holidays = [] ∧ h.opens = h.closes := by
  simp [isAlwaysOpen, and_assoc]

/-- If an exchange never closes, every day is a trading day and every time lies in the session. -/
lemma trading_of_isAlwaysOpen (halways : h.isAlwaysOpen = true) (reading : Instant) :
    h.isTradingDay reading.date = true ∧ h.inSession reading.time = true := by
  obtain ⟨hweekends, hholidays, hhours⟩ := isAlwaysOpen_iff.mp halways
  simp [isTradingDay, inSession, hweekends, hholidays, hhours]

/-- An exchange that never closes is open at every instant at which it can be asked. -/
lemma isOpen?_of_isAlwaysOpen (halways : h.isAlwaysOpen = true) (clocks : ZoneClocks) (t : Instant) :
    h.isOpen? clocks t = (clocks.reading? h.timeZone t).map fun _ => true := by
  simp only [isOpen?, trading_of_isAlwaysOpen halways, Bool.and_self]

lemma isOpen_of_isAlwaysOpen (halways : h.isAlwaysOpen = true) (clocks : ZoneClocks) (t : Instant) :
    h.isOpen clocks t = true := by
  rw [isOpen, isOpen?_of_isAlwaysOpen halways]
  cases clocks.reading? h.timeZone t <;> rfl

end TradingHours

/-! ### Slices of a timeline -/

namespace Timeline

/-- Every entry holds an observation. -/
def Inhabited (t : Timeline) : Prop := ∀ time os, t.get? time = some os → os ≠ []

lemma inhabited_empty : Inhabited .empty := by
  intro time os h
  simp at h

lemma Inhabited.record {t : Timeline} (h : t.Inhabited) (os : List Observation) :
    (t.record os).Inhabited := by
  induction os generalizing t with
  | nil => exact h
  | cons o os ih =>
    apply ih
    intro time found hfound
    rw [SortedMap.get?_push] at hfound
    split at hfound
    · cases hfound
      exact List.append_ne_nil_of_right_ne_nil _ (List.cons_ne_nil _ _)
    · exact h time found hfound

lemma pairwise_slices (t : Timeline) : t.slices.Pairwise fun s s' => s.time < s'.time :=
  List.pairwise_map.mpr t.ordered

lemma dataAt_slices (t : Timeline) (time : Instant) :
    Slice.dataAt t.slices time = t.completedAt time := by
  rw [← flatMap_filter_entries, Slice.dataAt, slices, List.filter_map, List.flatMap_map]
  rfl

lemma flatMap_data_slices (t : Timeline) : t.slices.flatMap Slice.data = t.toList := by
  rw [slices, List.flatMap_map, toList]

lemma Inhabited.ne_nil_of_mem_slices {t : Timeline} (h : t.Inhabited) {s : Slice}
    (hs : s ∈ t.slices) : s.data ≠ [] := by
  obtain ⟨e, he, rfl⟩ := List.mem_map.mp hs
  exact h e.1 e.2 (SortedMap.mem_entries_iff.mp he)

lemma Filed.endTime_of_mem_slices {t : Timeline} (h : t.Filed) {s : Slice} (hs : s ∈ t.slices)
    {o : Observation} (ho : o ∈ s.data) : o.endTime = s.time := by
  obtain ⟨e, he, rfl⟩ := List.mem_map.mp hs
  exact endTime_of_mem_entry h he ho

end Timeline

/-! ### Answers of a loaded archive -/

/-- The session that a request is limited to may be tested for every exchange: one that never closes
is always open. -/
lemma Request.isRegularOnly_iff (clocks : ZoneClocks) (r : Request) (t : Instant) :
    (!Archive.isRegularOnly r || r.hours.isOpen clocks t) = true ↔
      (r.resolution < .daily → r.extendedHours = false → r.hours.isOpen clocks t = true) := by
  cases halways : r.hours.isAlwaysOpen with
  | true => simp [Archive.isRegularOnly, TradingHours.isOpen_of_isAlwaysOpen halways]
  | false =>
    by_cases hdaily : r.resolution < .daily <;> cases hextended : r.extendedHours <;>
      simp [Archive.isRegularOnly, halways, hdaily, hextended]

/-- A request asks for what belongs to its series, is complete within its range and answers it. -/
lemma Request.wants_iff (clocks : ZoneClocks) (r : Request) (resolution : Resolution)
    (o : Observation) :
    r.Wants clocks resolution o ↔ (⟨o.symbol, resolution⟩ : SeriesKey) = ⟨r.symbol, r.resolution⟩ ∧
      ((r.startTime < o.endTime && o.endTime ≤ r.endTime) && Archive.answers clocks r o) = true := by
  simp only [Archive.answers, Bool.and_eq_true, decide_eq_true_eq, DataType.accepts,
    Bool.or_eq_true, r.isRegularOnly_iff clocks, SeriesKey.mk.injEq]
  constructor
  · intro h
    exact ⟨⟨h.symbol, h.resolution⟩, ⟨h.after, h.upTo⟩,
      ⟨h.dataType.imp_right Eq.symm, h.tickType⟩, h.session⟩
  · rintro ⟨⟨hsymbol, hresolution⟩, ⟨hafter, hupTo⟩, ⟨hdata, htick⟩, hsession⟩
    exact ⟨hsymbol, hresolution, hdata.imp_right Eq.symm, htick, hafter, hupTo, hsession⟩

namespace Archive

/-- The answer to a request is a choice from its series; a range that is empty chooses nothing. -/
lemma Filed.matching_eq_filter {a : Archive} (h : a.Filed) (r : Request) :
    a.matching r = (a.seriesOf ⟨r.symbol, r.resolution⟩).toList.filter fun o =>
      (r.startTime < o.endTime && o.endTime ≤ r.endTime) && answers a.clocks r o := by
  rw [matching_eq]
  split
  next hempty =>
    symm
    rw [List.filter_eq_nil_iff]
    intro o _ ho
    simp only [Bool.and_eq_true, decide_eq_true_eq] at ho
    have hle : r.endTime ≤ r.startTime := of_decide_eq_true hempty
    exact Std.not_lt.mpr (Std.le_trans ho.1.2 hle) ho.1.1
  next =>
    rw [(h _).between_eq, List.filter_filter]
    exact List.filter_congr fun o _ => Bool.and_comm ..

/-- At every time the answer to a request is what it asks for of the log. -/
lemma filter_matching_loaded (clocks : ZoneClocks) (loads : List Load) (failure : Option String)
    (r : Request) (time : Instant) :
    ((loaded clocks loads failure).matching r).filter (·.endTime = time) =
      (r.pick clocks (Load.log loads)).filter (·.endTime = time) := by
  have hfiled := filed_loaded clocks loads failure
  rw [hfiled.matching_eq_filter, List.filter_comm, (hfiled _).filter_toList, completedAt_loaded,
    List.filter_comm, SeriesKey.filter_select, SeriesKey.select, Request.pick, List.filter_filter]
  congr 3
  funext e
  rw [clocks_loaded, decide_eq_decide.mpr (r.wants_iff clocks e.1 e.2), Bool.decide_and,
    Bool.decide_eq_true]

end Archive

end MarketHistory
