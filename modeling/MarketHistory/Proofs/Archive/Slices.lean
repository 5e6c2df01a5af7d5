import MarketHistory.Proofs.Archive.Selection
import MarketHistory.Proofs.Order.Sorting
import MarketHistory.Proofs.Request.Clipping

/-!
# Lists of slices

An archive answers with slices of increasing time, none of them empty. Such a list is determined by
what it holds at each time (`Tidy.eq_of_dataAt_eq`). Asking for less is therefore the same as
leaving something out of the answer: a request over a part of a range, or one that is clipped, picks
a part of the log (`pick_withRange`, `pick_clip`).
-/

namespace MarketHistory

/-- Of the elements whose keys satisfy a condition, those of one key are all of them or none. -/
lemma filter_filter_key {α κ : Type} [DecidableEq κ] (key : α → κ) (p : κ → Bool) (l : List α)
    (k : κ) :
    (l.filter fun a => p (key a)).filter (key · = k) =
      if p k then l.filter (key · = k) else [] := by
  rw [List.filter_filter]
  split
  next hp =>
    refine List.filter_congr fun a _ => ?_
    by_cases ha : key a = k <;> simp [ha, hp]
  next hp =>
    refine List.filter_eq_nil_iff.mpr fun a _ ha => ?_
    simp only [Bool.and_eq_true, decide_eq_true_eq] at ha
    exact hp (ha.1 ▸ ha.2)

/-! ### Slices in the order of time -/

namespace Slice

/-- The slices are in the order of time, and none of them is empty. -/
structure Tidy (slices : List Slice) : Prop where
  increasing : slices.Pairwise fun s s' => s.time < s'.time
  ne_nil     : ∀ s ∈ slices, s.data ≠ []

/-- A list of slices in the order of time has at most one slice of a time: what it holds then. -/
lemma Tidy.filter_time {slices : List Slice} (h : Tidy slices) (time : Instant) :
    slices.filter (·.time = time) =
      if dataAt slices time = [] then [] else [⟨time, dataAt slices time⟩] := by
  have hmem : ∀ s ∈ slices.filter (·.time = time), s.data ≠ [] ∧ s.time = time := by
    intro s hs
    obtain ⟨hs, htime⟩ := List.mem_filter.mp hs
    exact ⟨h.ne_nil s hs, of_decide_eq_true htime⟩
  have hincreasing := h.increasing.filter (·.time = time)
  rcases hfound : slices.filter (·.time = time) with _ | ⟨s, _ | ⟨s', rest⟩⟩
  · simp [dataAt, hfound]
  · obtain ⟨hdata, rfl⟩ := hmem s (hfound ▸ List.mem_cons_self)
    simp [dataAt, hfound, hdata]
  · -- two slices of one time would be out of order
    have htime := (hmem s (hfound ▸ List.mem_cons_self)).2
    have htime' := (hmem s' (hfound ▸ List.mem_cons_of_mem s List.mem_cons_self)).2
    rw [hfound] at hincreasing
    have hlt : s.time < s'.time := (List.pairwise_cons.mp hincreasing).1 s' List.mem_cons_self
    rw [htime, htime'] at hlt
    exact absurd (Std.le_refl time) (Std.not_le.mpr hlt)

/-- What the slices hold at each time determines them. -/
lemma Tidy.eq_of_dataAt_eq {slices slices' : List Slice} (h : Tidy slices) (h' : Tidy slices')
    (heq : ∀ time, dataAt slices time = dataAt slices' time) : slices = slices' := by
  apply eq_of_pairwise_of_filter_eq Slice.time
  · exact h.increasing.imp Std.le_of_lt
  · exact h'.increasing.imp Std.le_of_lt
  · intro time
    rw [h.filter_time, h'.filter_time, heq]

/-! ### Leaving observations out -/

/-- The slices with only the observations that satisfy a condition, without those left empty. -/
def choose (p : Observation → Bool) (slices : List Slice) : List Slice :=
  slices.filterMap fun s =>
    let data := s.data.filter p
    if data.isEmpty then none else some ⟨s.time, data⟩

section Choose

variable (p : Observation → Bool) (slices : List Slice)

lemma restrict_eq_choose (requested : DataType) :
    restrict slices requested = choose (requested.accepts ·.dataType) slices := rfl

/-- A slice with a choice of observations comes from a slice of the same time. -/
lemma mem_choose {p : Observation → Bool} {slices : List Slice} {s : Slice} :
    s ∈ choose p slices ↔
      ∃ s' ∈ slices, s.time = s'.time ∧ s.data = s'.data.filter p ∧ s.data ≠ [] := by
  simp only [choose, List.mem_filterMap, Option.ite_none_left_eq_some, Option.some.injEq,
    List.isEmpty_iff]
  constructor
  · rintro ⟨s', hs', hne, rfl⟩
    exact ⟨s', hs', rfl, rfl, hne⟩
  · rintro ⟨s', hs', htime, hdata, hne⟩
    refine ⟨s', hs', hdata ▸ hne, ?_⟩
    rw [← htime, ← hdata]

lemma choose_cons (s : Slice) :
    choose p (s :: slices) =
      if s.data.filter p = [] then choose p slices
      else ⟨s.time, s.data.filter p⟩ :: choose p slices := by
  simp only [choose, List.filterMap_cons, List.isEmpty_iff]
  by_cases h : s.data.filter p = [] <;> simp only [h, if_true, if_false]

lemma flatMap_data_choose :
    (choose p slices).flatMap Slice.data = (slices.flatMap Slice.data).filter p := by
  induction slices with
  | nil => rfl
  | cons s slices ih =>
    rw [choose_cons, List.flatMap_cons, List.filter_append, ← ih]
    split
    next hnone => rw [hnone, List.nil_append]
    next => rfl

lemma dataAt_choose (time : Instant) :
    dataAt (choose p slices) time = (dataAt slices time).filter p := by
  have htime : (choose p slices).filter (·.time = time) =
      choose p (slices.filter (·.time = time)) := by
    induction slices with
    | nil => rfl
    | cons s slices ih =>
      by_cases hs : s.time = time <;> by_cases hdata : s.data.filter p = [] <;>
        simp [choose_cons, hs, hdata, ih]
  rw [dataAt, htime, flatMap_data_choose, dataAt]

variable {slices} in
lemma Tidy.choose (h : Tidy slices) : Tidy (choose p slices) where
  increasing := by
    refine List.pairwise_filterMap.mpr (h.increasing.imp ?_)
    intro s s' hlt t ht t' ht'
    simp only [Option.ite_none_left_eq_some, Option.some.injEq] at ht ht'
    rw [← ht.2, ← ht'.2]
    exact hlt
  ne_nil := by
    intro s hs
    obtain ⟨_, _, _, _, hne⟩ := mem_choose.mp hs
    exact hne

variable {slices} in
/-- It does not matter which of two choices comes first. -/
lemma Tidy.choose_comm (h : Tidy slices) (q : Observation → Bool) :
    Slice.choose q (Slice.choose p slices) = Slice.choose p (Slice.choose q slices) := by
  apply ((h.choose p).choose q).eq_of_dataAt_eq ((h.choose q).choose p)
  intro time
  simp only [dataAt_choose]
  exact List.filter_comm ..

end Choose

/-! ### Leaving times out -/

lemma dataAt_filter_time (slices : List Slice) (p : Instant → Bool) (time : Instant) :
    dataAt (slices.filter fun s => p s.time) time =
      if p time then dataAt slices time else [] := by
  rw [dataAt, filter_filter_key Slice.time]
  split <;> rfl

lemma Tidy.filter {slices : List Slice} (h : Tidy slices) (p : Slice → Bool) :
    Tidy (slices.filter p) where
  increasing := h.increasing.filter p
  ne_nil     := fun s hs => h.ne_nil s (List.mem_filter.mp hs).1

/-- The slices up to a time come before those after it. -/
lemma filter_le_append_filter_lt {slices : List Slice}
    (h : slices.Pairwise fun s s' => s.time < s'.time) (time : Instant) :
    (slices.filter fun s => s.time ≤ time) ++ (slices.filter fun s => time < s.time) = slices := by
  induction slices with
  | nil => rfl
  | cons s slices ih =>
    obtain ⟨hhead, htail⟩ := List.pairwise_cons.mp h
    by_cases hs : s.time ≤ time
    · have hnot : ¬time < s.time := Std.not_lt.mpr hs
      simp only [List.filter_cons, hs, hnot, decide_true, decide_false, if_true, if_false,
        Bool.false_eq_true, List.cons_append, ih htail]
    · -- all that follows is after the time as well
      have hlate : ∀ s' ∈ s :: slices, time < s'.time := by
        intro s' hs'
        rcases List.mem_cons.mp hs' with rfl | hs'
        · exact Std.not_le.mp hs
        · exact Std.lt_trans (Std.not_le.mp hs) (hhead s' hs')
      have hnone : (s :: slices).filter (fun s => s.time ≤ time) = [] :=
        List.filter_eq_nil_iff.mpr fun s' hs' h' =>
          Std.not_le.mpr (hlate s' hs') (of_decide_eq_true h')
      have hall : (s :: slices).filter (fun s => time < s.time) = s :: slices :=
        List.filter_eq_self.mpr fun s' hs' => decide_eq_true (hlate s' hs')
      rw [hnone, hall, List.nil_append]

end Slice

/-! ### Parts of requests -/

namespace Request

variable {clocks : ZoneClocks}

/-- A request over a part of the range asks for what is complete within that part. -/
lemma wants_withRange_iff {r : Request} {start finish : Instant} (hstart : r.startTime ≤ start)
    (hfinish : finish ≤ r.endTime) (resolution : Resolution) (o : Observation) :
    (r.withRange start finish).Wants clocks resolution o ↔
      r.Wants clocks resolution o ∧ start < o.endTime ∧ o.endTime ≤ finish := by
  constructor
  · intro h
    have hafter : start < o.endTime := h.after
    have hupTo : o.endTime ≤ finish := h.upTo
    exact ⟨⟨h.symbol, h.resolution, h.dataType, h.tickType, Std.lt_of_le_of_lt hstart hafter,
      Std.le_trans hupTo hfinish, h.session⟩, hafter, hupTo⟩
  · rintro ⟨h, hafter, hupTo⟩
    exact ⟨h.symbol, h.resolution, h.dataType, h.tickType, hafter, hupTo, h.session⟩

/-- A clipped request asks for what is complete by the present. -/
lemma wants_clip_iff (r : Request) (now : Instant) (resolution : Resolution) (o : Observation) :
    (r.clip now).Wants clocks resolution o ↔ r.Wants clocks resolution o ∧ o.endTime ≤ now := by
  by_cases hfinish : r.endTime ≤ now
  · rw [clip_of_le hfinish]
    exact ⟨fun h => ⟨h, Std.le_trans h.upTo hfinish⟩, And.left⟩
  · rw [clip_of_not_le hfinish]
    constructor
    · intro h
      have hupTo : o.endTime ≤ now := h.upTo
      have hafter : min r.startTime now < o.endTime := h.after
      have hstart : r.startTime < o.endTime := Std.not_le.mp fun hle =>
        Std.not_le.mpr hafter (Std.le_min_iff.mpr ⟨hle, hupTo⟩)
      have hend : o.endTime ≤ r.endTime := Std.le_trans hupTo (Std.le_of_lt (Std.not_le.mp hfinish))
      exact ⟨⟨h.symbol, h.resolution, h.dataType, h.tickType, hstart, hend, h.session⟩, hupTo⟩
    · rintro ⟨h, hupTo⟩
      exact ⟨h.symbol, h.resolution, h.dataType, h.tickType,
        Std.lt_of_le_of_lt Std.min_le_left h.after, hupTo, h.session⟩

lemma pick_withRange {r : Request} {start finish : Instant} (hstart : r.startTime ≤ start)
    (hfinish : finish ≤ r.endTime) (log : List (Resolution × Observation)) :
    (r.withRange start finish).pick clocks log =
      (r.pick clocks log).filter fun o => start < o.endTime && o.endTime ≤ finish := by
  rw [pick, pick, List.filter_map, List.filter_filter]
  congr 1
  refine List.filter_congr fun e _ => ?_
  simp only [wants_withRange_iff hstart hfinish, Bool.decide_and, Function.comp, Bool.and_comm]

lemma pick_clip (r : Request) (now : Instant) (log : List (Resolution × Observation)) :
    (r.clip now).pick clocks log = (r.pick clocks log).filter (·.endTime ≤ now) := by
  rw [pick, pick, List.filter_map, List.filter_filter]
  congr 1
  refine List.filter_congr fun e _ => ?_
  simp only [wants_clip_iff, Bool.decide_and, Function.comp, Bool.and_comm]

/-- A request picks nothing of another symbol. -/
lemma symbol_of_mem_pick {r : Request} {log : List (Resolution × Observation)} {o : Observation}
    (ho : o ∈ r.pick clocks log) : o.symbol = r.symbol := by
  obtain ⟨e, he, rfl⟩ := List.mem_map.mp ho
  exact (of_decide_eq_true (List.mem_filter.mp he).2 : r.Wants clocks e.1 e.2).symbol

end Request

/-! ### Answers of a loaded archive -/

namespace Observation

/-- Whether the first of two observations is complete no later than the second. -/
def endsBy (a b : Observation) : Bool := a.endTime ≤ b.endTime

/-- The observations in the order in which they are complete; those complete at one time stay in
the order that they have. -/
def byEndTime (os : List Observation) : List Observation := os.mergeSort endsBy

lemma endsBy_trans (a b c : Observation) :
    endsBy a b = true → endsBy b c = true → endsBy a c = true := by
  simp only [endsBy, decide_eq_true_eq]
  exact Std.le_trans

lemma endsBy_total (a b : Observation) : (endsBy a b || endsBy b a) = true := by
  simp only [endsBy, Bool.or_eq_true, decide_eq_true_eq]
  exact Std.le_total

lemma pairwise_byEndTime (os : List Observation) :
    (byEndTime os).Pairwise fun a b => a.endTime ≤ b.endTime :=
  (List.pairwise_mergeSort endsBy_trans endsBy_total os).imp of_decide_eq_true

/-- Observations of one time stay in order. -/
lemma filter_byEndTime (os : List Observation) (time : Instant) :
    (byEndTime os).filter (·.endTime = time) = os.filter (·.endTime = time) := by
  refine filter_mergeSort endsBy_trans endsBy_total (fun a b ha hb => decide_eq_true ?_) os
  rw [of_decide_eq_true ha, of_decide_eq_true hb]
  exact Std.le_refl time

end Observation

namespace Archive

lemma tidy_slices (a : Archive) (batch : List Request) : Slice.Tidy (a.slices batch) where
  increasing := Timeline.pairwise_slices _
  ne_nil     := fun _ hs =>
    (Timeline.inhabited_empty.record (batch.flatMap a.matching)).ne_nil_of_mem_slices hs

/-- At every time the slices hold what the requests pick of the log, request by request. -/
lemma dataAt_slices_loaded (clocks : ZoneClocks) (loads : List Load) (failure : Option String)
    (batch : List Request) (time : Instant) :
    Slice.dataAt ((loaded clocks loads failure).slices batch) time =
      batch.flatMap fun r => (r.pick clocks (Load.log loads)).filter (·.endTime = time) := by
  rw [slices, Timeline.dataAt_slices, Timeline.completedAt_record, Timeline.completedAt_empty,
    List.nil_append, List.filter_flatMap]
  exact List.flatMap_congr fun r _ => filter_matching_loaded clocks loads failure r time

/-- One after the other, the slices hold what the requests pick of the log, by time. -/
lemma flatMap_data_slices_loaded (clocks : ZoneClocks) (loads : List Load)
    (failure : Option String) (batch : List Request) :
    ((loaded clocks loads failure).slices batch).flatMap Slice.data =
      Observation.byEndTime (batch.flatMap (·.pick clocks (Load.log loads))) := by
  have hfiled := Timeline.filed_empty.record (batch.flatMap (loaded clocks loads failure).matching)
  rw [slices, Timeline.flatMap_data_slices]
  apply eq_of_pairwise_of_filter_eq Observation.endTime
  · exact hfiled.pairwise_toList
  · exact Observation.pairwise_byEndTime _
  · intro time
    rw [hfiled.filter_toList, ← Timeline.dataAt_slices, Observation.filter_byEndTime,
      List.filter_flatMap]
    exact dataAt_slices_loaded clocks loads failure batch time

end Archive

end MarketHistory
