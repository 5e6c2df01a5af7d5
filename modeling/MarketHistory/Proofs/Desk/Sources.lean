import MarketHistory.Desk.Change
import Mathlib.Tactic.Lemma

/-!
# Where observations come from

Answers are cut out of the slices of the archive: projecting and restricting slices, looking for
the latest observations and choosing among them bring in no observation that was not there.
-/

namespace MarketHistory

namespace Slice

lemma sublist_project (slices : List Slice) (symbol : Symbol) (requested : DataType) :
    (project slices symbol requested).Sublist (slices.flatMap data) :=
  List.filter_sublist

lemma sublist_restrict (slices : List Slice) (requested : DataType) :
    ((restrict slices requested).flatMap data).Sublist (slices.flatMap data) := by
  induction slices with
  | nil => exact List.Sublist.slnil
  | cons s slices ih =>
    simp only [restrict, List.filterMap_cons, List.flatMap_cons]
    split
    next => exact ih.trans (List.sublist_append_right _ _)
    next s' hs' =>
      split at hs'
      · cases hs'
      · cases hs'
        exact List.filter_sublist.append ih

end Slice

namespace Observation

/-- Bars of trades among observations are the observations they were. -/
lemma sublist_tradeBars (os : List Observation) :
    ((os.filterMap tradeBar?).map tradeBar).Sublist os := by
  induction os with
  | nil => exact List.Sublist.slnil
  | cons o os ih =>
    cases o with
    | tradeBar b => exact ih.cons_cons _
    | quoteBar b => exact ih.cons _
    | tick t => exact ih.cons _
    | openInterest i => exact ih.cons _

end Observation

namespace LatestByType

lemma mem_observations_put {found : LatestByType} {t : TickType} {new o : Observation}
    (h : o ∈ (found.put t new).observations) : o ∈ found.observations ∨ o = new := by
  obtain ⟨e, he, rfl⟩ := List.mem_map.mp h
  simp only [put] at he
  split at he
  · obtain ⟨old, hold, rfl⟩ := List.mem_map.mp he
    split
    · exact .inr rfl
    · exact .inl (List.mem_map_of_mem hold)
  · rcases List.mem_append.mp he with he | he
    · exact .inl (List.mem_map_of_mem he)
    · rw [List.mem_singleton.mp he]
      exact .inr rfl

/-- What a slice adds comes from the slice. -/
lemma mem_observations_putSlice {symbol : Symbol} {requests : List Request} {found : LatestByType}
    {s : Slice} {o : Observation} (h : o ∈ (found.putSlice symbol requests s).observations) :
    o ∈ found.observations ∨ o ∈ s.data := by
  refine List.foldlRecOn (motive := fun found' => o ∈ observations found' →
    o ∈ found.observations ∨ o ∈ s.data) requests _ ?_ ?_ h
  · exact .inl
  · intro found ih r _ h
    split at h
    next new hnew =>
      have hmem : new ∈ s.data := List.mem_reverse.mp (List.mem_of_find?_eq_some hnew)
      rcases mem_observations_put h with h | rfl
      · exact ih h
      · exact .inr hmem
    next => exact ih h

/-- What slices add comes from the slices. -/
lemma mem_observations_putSlices {symbol : Symbol} {requests : List Request}
    {slices : List Slice} {found : LatestByType} {o : Observation}
    (h : o ∈ observations (slices.foldl (putSlice symbol requests) found)) :
    o ∈ found.observations ∨ o ∈ slices.flatMap Slice.data := by
  induction slices generalizing found with
  | nil => exact .inl h
  | cons s slices ih =>
    rw [List.flatMap_cons, List.mem_append]
    rcases ih h with h | h
    · rcases mem_observations_putSlice h with h | h
      · exact .inl h
      · exact .inr (.inl h)
    · exact .inr (.inr h)

end LatestByType

lemma Observation.mem_arrange {priorities : List TickType} {prices : List Observation}
    {o : Observation} : o ∈ arrange priorities prices ↔ o ∈ prices :=
  List.mem_mergeSort

/-- The observation that is chosen is one of those to choose from. -/
lemma Observation.mem_of_primary? {priorities : List TickType} {prices : List Observation}
    {o : Observation} (h : primary? priorities prices = some o) : o ∈ prices := by
  -- the best so far is one of the prices, from the first price on
  refine List.foldlRecOn (motive := fun best => ∀ o, best = some o → o ∈ prices) prices _ ?_ ?_
    o h
  · exact fun _ hnone => nomatch hnone
  · intro best ih new hnew o h
    split at h
    · split at h
      · cases h
        exact hnew
      · exact ih o h
    · cases h
      exact hnew

end MarketHistory
