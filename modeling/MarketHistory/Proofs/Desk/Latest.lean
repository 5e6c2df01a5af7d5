import MarketHistory.Desk.LastPrice
import MarketHistory.Proofs.Archive.Slices

/-!
# The latest observations in slices

The slices that answer a batch of requests are read from the first to the last, and what is found
of a tick type replaces what was found of it before (`get?_putSlices`). As slices come in the order
of time, this leaves of each tick type one that is complete no earlier than any other that the
requests ask for, and none only where they ask for none (`isLatest_lastIn?`).
-/

namespace MarketHistory

/-! ### Observations by tick type -/

namespace LatestByType

/-- The observation found for a tick type. -/
def get? (found : LatestByType) (t : TickType) : Option Observation :=
  (found.find? (·.1 = t)).map (·.2)

@[simp]
lemma get?_nil (t : TickType) : get? [] t = none := rfl

lemma has_eq_isSome_get? (found : LatestByType) (t : TickType) :
    found.has t = (found.get? t).isSome := by
  rw [has, get?, Option.isSome_map, List.isSome_find?]

/-- What is put replaces what was found for its tick type and nothing else. -/
lemma get?_put (found : LatestByType) (t t' : TickType) (o : Observation) :
    (found.put t o).get? t' = if t' = t then some o else found.get? t' := by
  simp only [put]
  split
  next hhas =>
    let replace (e : TickType × Observation) := if e.1 = t then (t, o) else e
    have hkey : ∀ e, (replace e).1 = e.1 := by
      intro e
      by_cases he : e.1 = t <;> simp [replace, he]
    have hfind : (found.map replace).find? (·.1 = t') = (found.find? (·.1 = t')).map replace := by
      rw [List.find?_map]
      simp only [Function.comp_def, hkey]
    show ((found.map replace).find? (·.1 = t')).map (·.2) = _
    rw [hfind, Option.map_map, get?]
    split
    next ht =>
      subst ht
      rw [has_eq_isSome_get?, get?, Option.isSome_map, Option.isSome_iff_exists] at hhas
      obtain ⟨e, he⟩ := hhas
      have hkey : e.1 = t' := by simpa using List.find?_some he
      simp [he, replace, hkey]
    next ht =>
      cases he : found.find? (·.1 = t') with
      | none => rfl
      | some e =>
        have hkey : e.1 = t' := by simpa using List.find?_some he
        simp [replace, hkey, ht]
  next hhas =>
    rw [has_eq_isSome_get?, get?, Option.isSome_map, Option.not_isSome_iff_eq_none] at hhas
    rw [get?, List.find?_append, get?]
    by_cases ht : t' = t
    · subst ht
      simp [hhas]
    · simp [ht, Ne.symm ht]

/-- What was found stands under its own tick type, once for each. -/
structure Keyed (found : LatestByType) : Prop where
  nodup    : (found.map (·.1)).Nodup
  tickType : ∀ e ∈ found, e.2.tickType = e.1

lemma keyed_nil : Keyed [] := ⟨List.nodup_nil, fun _ he => nomatch he⟩

lemma Keyed.put {found : LatestByType} (h : found.Keyed) {t : TickType} {o : Observation}
    (ho : o.tickType = t) : (found.put t o).Keyed := by
  simp only [LatestByType.put]
  split
  next hhas =>
    have hkeys : (found.map fun e => if e.1 = t then (t, o) else e).map (·.1) =
        found.map (·.1) := by
      rw [List.map_map]
      refine List.map_congr_left fun e _ => ?_
      by_cases he : e.1 = t <;> simp [he]
    refine ⟨hkeys ▸ h.nodup, fun e he => ?_⟩
    obtain ⟨old, hold, rfl⟩ := List.mem_map.mp he
    split
    · exact ho
    · exact h.tickType old hold
  next hhas =>
    refine ⟨?_, fun e he => ?_⟩
    · have hnew : ∀ e ∈ found, e.1 ≠ t := by
        intro e he hkey
        exact hhas (List.any_eq_true.mpr ⟨e, he, decide_eq_true hkey⟩)
      rw [List.map_append, List.nodup_append]
      refine ⟨h.nodup, List.pairwise_singleton _ t, ?_⟩
      intro t' ht' t'' ht''
      obtain ⟨e, he, rfl⟩ := List.mem_map.mp ht'
      rw [List.mem_singleton.mp ht'']
      exact hnew e he
    · rcases List.mem_append.mp he with he | he
      · exact h.tickType e he
      · rw [List.mem_singleton.mp he]
        exact ho

lemma Keyed.map_tickType {found : LatestByType} (h : found.Keyed) :
    found.observations.map (·.tickType) = found.map (·.1) := by
  rw [observations, List.map_map]
  exact List.map_congr_left h.tickType

/-- An observation was found exactly if it is the one for its tick type. -/
lemma Keyed.mem_observations_iff {found : LatestByType} (h : found.Keyed) {o : Observation} :
    o ∈ found.observations ↔ found.get? o.tickType = some o := by
  constructor
  · intro ho
    obtain ⟨e, he, rfl⟩ := List.mem_map.mp ho
    rw [h.tickType e he, get?, Option.map_eq_some_iff]
    refine ⟨e, ?_, rfl⟩
    obtain ⟨l, l', rfl⟩ := List.mem_iff_append.mp he
    rw [List.find?_eq_some_iff_append]
    refine ⟨decide_eq_true rfl, l, l', rfl, fun e' he' => ?_⟩
    have hnodup := h.nodup
    rw [List.map_append, List.nodup_append] at hnodup
    have hne := hnodup.2.2 e'.1 (List.mem_map_of_mem he') e.1
      (List.mem_map_of_mem List.mem_cons_self)
    simpa using hne
  · intro ho
    obtain ⟨e, he, rfl⟩ := Option.map_eq_some_iff.mp ho
    exact List.mem_map_of_mem (List.mem_of_find?_eq_some he)

end LatestByType

/-! ### What is found in slices -/

namespace Slice

/-- What a slice has for a request is about the symbol, of the type of data and the tick type. -/
lemma mem_of_latest? {s : Slice} {symbol : Symbol} {r : Request} {o : Observation}
    (h : s.latest? symbol r = some o) : o ∈ s.data ∧ o.tickType = r.tickType := by
  refine ⟨List.mem_reverse.mp (List.mem_of_find?_eq_some h), ?_⟩
  have hanswers := List.find?_some h
  simp only [Bool.and_eq_true, decide_eq_true_eq] at hanswers
  exact hanswers.2

/-- What a slice has for the last of the requests of a tick type for which it has anything. -/
def lastFor? (s : Slice) (symbol : Symbol) (requests : List Request) (t : TickType) :
    Option Observation :=
  (requests.reverse.filter (·.tickType = t)).findSome? (s.latest? symbol)

/-- What the last of the slices that have anything of a tick type has for it. -/
def lastIn? (slices : List Slice) (symbol : Symbol) (requests : List Request) (t : TickType) :
    Option Observation :=
  slices.reverse.findSome? (·.lastFor? symbol requests t)

lemma lastFor?_cons (s : Slice) (symbol : Symbol) (r : Request) (requests : List Request)
    (t : TickType) :
    s.lastFor? symbol (r :: requests) t =
      (s.lastFor? symbol requests t).or (if r.tickType = t then s.latest? symbol r else none) := by
  rw [lastFor?, List.reverse_cons, List.filter_append, List.findSome?_append, lastFor?]
  by_cases ht : r.tickType = t <;> simp [ht]

lemma lastIn?_cons (s : Slice) (slices : List Slice) (symbol : Symbol) (requests : List Request)
    (t : TickType) :
    lastIn? (s :: slices) symbol requests t =
      (lastIn? slices symbol requests t).or (s.lastFor? symbol requests t) := by
  rw [lastIn?, List.reverse_cons, List.findSome?_append, lastIn?]
  simp

end Slice

namespace LatestByType

variable (symbol : Symbol) (requests : List Request)

/-- A slice replaces what it has something for. -/
lemma get?_putSlice (found : LatestByType) (s : Slice) (t : TickType) :
    (found.putSlice symbol requests s).get? t =
      (s.lastFor? symbol requests t).or (found.get? t) := by
  induction requests generalizing found with
  | nil => rfl
  | cons r requests ih =>
    rw [Slice.lastFor?_cons, Option.or_assoc]
    cases hlatest : s.latest? symbol r with
    | none =>
      rw [putSlice, List.foldl_cons, hlatest, ← putSlice, ih]
      simp
    | some o =>
      rw [putSlice, List.foldl_cons, hlatest, ← putSlice, ih, get?_put]
      by_cases ht : r.tickType = t
      · simp [ht]
      · simp [ht, Ne.symm ht]

/-- Slices replace what they have something for, and the last of them counts. -/
lemma get?_putSlices (found : LatestByType) (slices : List Slice) (t : TickType) :
    (slices.foldl (putSlice symbol requests) found).get? t =
      (Slice.lastIn? slices symbol requests t).or (found.get? t) := by
  induction slices generalizing found with
  | nil => rfl
  | cons s slices ih => rw [List.foldl_cons, ih, get?_putSlice, Slice.lastIn?_cons, Option.or_assoc]

variable {symbol requests}

lemma Keyed.putSlice {found : LatestByType} (h : found.Keyed) (s : Slice) :
    (found.putSlice symbol requests s).Keyed := by
  refine List.foldlRecOn (motive := Keyed) requests _ h fun found hfound r _ => ?_
  split
  next o ho => exact hfound.put (Slice.mem_of_latest? ho).2
  next => exact hfound

lemma Keyed.putSlices {found : LatestByType} (h : found.Keyed) (slices : List Slice) :
    Keyed (slices.foldl (LatestByType.putSlice symbol requests) found) :=
  List.foldlRecOn (motive := Keyed) slices _ h fun _ hfound s _ => hfound.putSlice s

end LatestByType

/-! ### The latest of what requests ask for -/

/-- The observation is one that the requests of a tick type ask for of a log. -/
def PickedFor (clocks : ZoneClocks) (requests : List Request) (log : List (Resolution × Observation))
    (t : TickType) (o : Observation) : Prop :=
  ∃ r ∈ requests, r.tickType = t ∧ o ∈ r.pick clocks log

instance (clocks : ZoneClocks) (requests : List Request) (log : List (Resolution × Observation))
    (t : TickType) (o : Observation) : Decidable (PickedFor clocks requests log t o) :=
  inferInstanceAs (Decidable (∃ r ∈ requests, r.tickType = t ∧ o ∈ r.pick clocks log))

/-- An observation that satisfies a condition, where no other that does is complete later; or none
because none does. -/
def IsLatest (P : Observation → Prop) : Option Observation → Prop
  | none   => ∀ o, ¬P o
  | some o => P o ∧ ∀ o', P o' → o'.endTime ≤ o.endTime

lemma IsLatest.congr {P Q : Observation → Prop} (h : ∀ o, P o ↔ Q o) {o : Option Observation}
    (ho : IsLatest P o) : IsLatest Q o := by
  have hPQ : P = Q := funext fun o => propext (h o)
  rwa [← hPQ]

/-- What a request picks of a log was asked for. -/
lemma Request.exists_wants_of_mem_pick {clocks : ZoneClocks} {r : Request}
    {log : List (Resolution × Observation)} {o : Observation} (ho : o ∈ r.pick clocks log) :
    ∃ resolution, r.Wants clocks resolution o := by
  obtain ⟨e, he, rfl⟩ := List.mem_map.mp ho
  exact ⟨e.1, of_decide_eq_true (List.mem_filter.mp he).2⟩

lemma PickedFor.tickType {clocks : ZoneClocks} {requests : List Request}
    {log : List (Resolution × Observation)} {t : TickType} {o : Observation} (h : PickedFor clocks requests log t o) :
    o.tickType = t := by
  obtain ⟨r, _, rfl, ho⟩ := h
  obtain ⟨_, hwants⟩ := Request.exists_wants_of_mem_pick ho
  exact hwants.tickType

section Loaded

variable {clocks : ZoneClocks} {loads : List Load} {failure : Option String} {symbol : Symbol}
  {requests : List Request} {t : TickType} {o : Observation}

/-- What is found in a slice was asked for. -/
lemma pickedFor_of_lastFor? {s : Slice} (hs : s ∈ (Archive.loaded clocks loads failure).slices requests)
    (h : s.lastFor? symbol requests t = some o) :
    PickedFor clocks requests (Load.log loads) t o ∧ o.endTime = s.time := by
  obtain ⟨r, hr, hlatest⟩ := List.exists_of_findSome?_eq_some h
  obtain ⟨ho, htick⟩ := Slice.mem_of_latest? hlatest
  have htype : r.tickType = t := of_decide_eq_true (List.mem_filter.mp hr).2
  have hdata : o ∈ Slice.dataAt ((Archive.loaded clocks loads failure).slices requests) s.time :=
    List.mem_flatMap.mpr ⟨s, List.mem_filter.mpr ⟨hs, decide_eq_true rfl⟩, ho⟩
  -- it may have been another request of the tick type that brought it in
  rw [Archive.dataAt_slices_loaded, List.mem_flatMap] at hdata
  obtain ⟨r', hr', ho'⟩ := hdata
  obtain ⟨hpick, htime⟩ := List.mem_filter.mp ho'
  obtain ⟨_, hwants⟩ := Request.exists_wants_of_mem_pick hpick
  refine ⟨⟨r', hr', ?_, hpick⟩, of_decide_eq_true htime⟩
  rw [← hwants.tickType, htick, htype]

/-- What is asked for is in a slice of its time, where something of its tick type is found. -/
lemma exists_lastFor?_of_pickedFor (failure : Option String)
    (hsymbol : ∀ r ∈ requests, r.symbol = symbol)
    (h : PickedFor clocks requests (Load.log loads) t o) :
    ∃ s ∈ (Archive.loaded clocks loads failure).slices requests, s.time = o.endTime ∧
      (s.lastFor? symbol requests t).isSome = true := by
  obtain ⟨r, hr, rfl, ho⟩ := h
  have hdata : o ∈ Slice.dataAt ((Archive.loaded clocks loads failure).slices requests) o.endTime := by
    rw [Archive.dataAt_slices_loaded, List.mem_flatMap]
    exact ⟨r, hr, List.mem_filter.mpr ⟨ho, decide_eq_true rfl⟩⟩
  obtain ⟨s, hs, hos⟩ := List.mem_flatMap.mp hdata
  obtain ⟨hs, htime⟩ := List.mem_filter.mp hs
  refine ⟨s, hs, of_decide_eq_true htime, ?_⟩
  obtain ⟨_, hwants⟩ := Request.exists_wants_of_mem_pick ho
  rw [Slice.lastFor?, List.findSome?_isSome_iff]
  refine ⟨r, List.mem_filter.mpr ⟨List.mem_reverse.mpr hr, decide_eq_true rfl⟩, ?_⟩
  rw [Slice.latest?, List.find?_isSome]
  refine ⟨o, List.mem_reverse.mpr hos, ?_⟩
  have haccepts : r.dataType.accepts o.dataType = true := by
    simp only [DataType.accepts, Bool.or_eq_true, decide_eq_true_eq]
    exact hwants.dataType.imp_right Eq.symm
  simp [hwants.symbol, hsymbol r hr, hwants.tickType, haccepts]

/-- What is found last is the latest of what the requests of its tick type ask for. -/
lemma isLatest_lastIn? (clocks : ZoneClocks) (loads : List Load) (failure : Option String)
    (hsymbol : ∀ r ∈ requests, r.symbol = symbol) (t : TickType) :
    IsLatest (PickedFor clocks requests (Load.log loads) t)
      (Slice.lastIn? ((Archive.loaded clocks loads failure).slices requests) symbol requests t) := by
  have hincreasing := ((Archive.loaded clocks loads failure).tidy_slices requests).increasing
  cases h : Slice.lastIn? ((Archive.loaded clocks loads failure).slices requests) symbol requests t with
  | none =>
    intro o ho
    obtain ⟨s, hs, _, hsome⟩ := exists_lastFor?_of_pickedFor failure hsymbol ho
    rw [List.findSome?_eq_none_iff.mp h s (List.mem_reverse.mpr hs)] at hsome
    cases hsome
  | some o =>
    obtain ⟨late, s, early, hslices, hfound, hnone⟩ := List.findSome?_eq_some_iff.mp h
    rw [List.reverse_eq_iff, List.reverse_append, List.reverse_cons, List.append_assoc,
      List.singleton_append] at hslices
    have hs : s ∈ (Archive.loaded clocks loads failure).slices requests := by
      rw [hslices]
      exact List.mem_append_right _ List.mem_cons_self
    obtain ⟨hpicked, htime⟩ := pickedFor_of_lastFor? hs hfound
    refine ⟨hpicked, fun o' ho' => ?_⟩
    obtain ⟨s', hs', htime', hsome⟩ := exists_lastFor?_of_pickedFor failure hsymbol ho'
    rw [← htime', htime]
    rw [hslices] at hs' hincreasing
    rcases List.mem_append.mp hs' with hs' | hs'
    · exact Std.le_of_lt ((List.pairwise_append.mp hincreasing).2.2 s' hs' s List.mem_cons_self)
    · rcases List.mem_cons.mp hs' with rfl | hs'
      · exact Std.le_refl _
      · -- nothing of the tick type is found in a later slice
        rw [hnone s' (List.mem_reverse.mp hs')] at hsome
        cases hsome

end Loaded

end MarketHistory
