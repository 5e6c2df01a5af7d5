import MarketHistory.Archive.Basic
import Mathlib.Data.List.Basic

/-!
# Timelines as lists

A timeline is read in two ways: as the observations complete at one time, `completedAt`, and as
one list of all observations, `toList`. The first follows every change of a timeline; the second
is in the order of time and holds at each time what the first tells, which determines it. A part
of a timeline therefore depends only on the times within it (`between_congr`).
-/

namespace MarketHistory

/-! ### Lists in the order of a key -/

/-- Two lists in the order of a key are equal if they agree on the elements of every key. -/
lemma eq_of_pairwise_of_filter_eq {α κ : Type} [LE κ] [Std.IsLinearOrder κ] [DecidableEq κ]
    (key : α → κ) :
    ∀ {l l' : List α}, l.Pairwise (fun a b => key a ≤ key b) →
      l'.Pairwise (fun a b => key a ≤ key b) →
      (∀ k, l.filter (key · = k) = l'.filter (key · = k)) → l = l'
  | [], [], _, _, _ => rfl
  | [], b :: l', _, _, h => by simpa using h (key b)
  | a :: l, [], _, _, h => by simpa using h (key a)
  | a :: l, b :: l', hl, hl', h => by
    obtain ⟨ha, htl⟩ := List.pairwise_cons.mp hl
    obtain ⟨hb, htl'⟩ := List.pairwise_cons.mp hl'
    -- each head occurs in the other list, so that neither key is below the other
    have hmem : a ∈ b :: l' := by
      have : a ∈ (b :: l').filter (key · = key a) := h (key a) ▸ by simp
      exact (List.mem_filter.mp this).1
    have hmem' : b ∈ a :: l := by
      have : b ∈ (a :: l).filter (key · = key b) := h (key b) ▸ by simp
      exact (List.mem_filter.mp this).1
    have hkey : key a = key b := by
      apply Std.le_antisymm
      · rcases List.mem_cons.mp hmem' with rfl | hmem'
        · exact Std.le_refl _
        · exact ha b hmem'
      · rcases List.mem_cons.mp hmem with rfl | hmem
        · exact Std.le_refl _
        · exact hb a hmem
    have hab : a = b := by
      have := h (key a)
      simp only [List.filter_cons, hkey, decide_true, if_true, List.cons.injEq] at this
      exact this.1
    subst hab
    congr 1
    apply eq_of_pairwise_of_filter_eq key htl htl'
    intro k
    have := h k
    by_cases hk : key a = k
    · simpa [List.filter_cons, hk] using this
    · simpa [List.filter_cons, hk] using this

namespace Timeline

/-! ### The observations of one time -/

/-- The observations complete at a time. -/
def completedAt (t : Timeline) (time : Instant) : List Observation := (t.get? time).getD []

@[simp]
lemma completedAt_empty (time : Instant) : completedAt .empty time = [] := rfl

/-- An observation that arrives comes last among those complete at its time. -/
lemma completedAt_push (t : Timeline) (o : Observation) (time : Instant) :
    completedAt (t.push o.endTime o) time =
      t.completedAt time ++ [o].filter (·.endTime = time) := by
  simp only [completedAt]
  rw [SortedMap.get?_push]
  by_cases h : o.endTime = time
  · simp [h]
  · simp [h, Ne.symm h]

/-- Recorded observations come after those that are there, each at its time. -/
lemma completedAt_record (t : Timeline) (os : List Observation) (time : Instant) :
    (t.record os).completedAt time = t.completedAt time ++ os.filter (·.endTime = time) := by
  induction os generalizing t with
  | nil => simp [record]
  | cons o os ih =>
    have := ih (t.push o.endTime o)
    rw [record, List.foldl_cons, ← record, this, completedAt_push, List.append_assoc,
      ← List.filter_append, List.singleton_append]

/-- Every observation stands at the time at which it is complete. -/
def Filed (t : Timeline) : Prop := ∀ time, ∀ o ∈ t.completedAt time, o.endTime = time

lemma filed_empty : Filed .empty := by
  intro time o ho
  simp at ho

lemma Filed.record {t : Timeline} (h : t.Filed) (os : List Observation) : (t.record os).Filed := by
  intro time o ho
  rw [completedAt_record, List.mem_append] at ho
  rcases ho with ho | ho
  · exact h time o ho
  · simpa using (List.mem_filter.mp ho).2

/-- An entry is what is complete at its time. -/
lemma completedAt_of_mem {t : Timeline} {e : Instant × List Observation} (he : e ∈ t.entries) :
    t.completedAt e.1 = e.2 := by
  obtain ⟨time, os⟩ := e
  rw [completedAt, SortedMap.mem_entries_iff.mp he, Option.getD_some]

/-! ### All observations -/

/-- All observations, in the order of time. -/
def toList (t : Timeline) : List Observation := t.entries.flatMap (·.2)

lemma endTime_of_mem_entry {t : Timeline} (h : t.Filed) {e : Instant × List Observation}
    (he : e ∈ t.entries) {o : Observation} (ho : o ∈ e.2) : o.endTime = e.1 := by
  apply h e.1 o
  rwa [completedAt_of_mem he]

lemma Filed.pairwise_toList {t : Timeline} (h : t.Filed) :
    t.toList.Pairwise fun a b => a.endTime ≤ b.endTime := by
  simp only [toList]
  rw [List.pairwise_flatMap]
  constructor
  · intro e he
    refine List.pairwise_of_forall_mem_list fun a ha b hb => ?_
    rw [endTime_of_mem_entry h he ha, endTime_of_mem_entry h he hb]
    exact Std.le_refl _
  · refine t.ordered.imp_of_mem fun {e e'} he he' hlt a ha b hb => ?_
    rw [endTime_of_mem_entry h he ha, endTime_of_mem_entry h he' hb]
    exact Std.le_of_lt hlt

/-- To choose observations by their time is to choose entries. -/
lemma Filed.filter_endTime {t : Timeline} (h : t.Filed) (p : Instant → Bool) :
    t.toList.filter (fun o => p o.endTime) = (t.entries.filter fun e => p e.1).flatMap (·.2) := by
  have key : ∀ e ∈ t.entries, ∀ o ∈ e.2, o.endTime = e.1 := fun _ he _ ho =>
    endTime_of_mem_entry h he ho
  simp only [toList]
  generalize t.entries = es at key
  induction es with
  | nil => rfl
  | cons e es ih =>
    have htime := key e List.mem_cons_self
    have he : e.2.filter (fun o => p o.endTime) = if p e.1 then e.2 else [] := by
      split
      next hp => exact List.filter_eq_self.mpr fun o ho => by rwa [htime o ho]
      next hp => exact List.filter_eq_nil_iff.mpr fun o ho => by rwa [htime o ho]
    rw [List.flatMap_cons, List.filter_append, he,
      ih fun e' he' => key e' (List.mem_cons_of_mem _ he'), List.filter_cons]
    by_cases hp : p e.1 = true
    · rw [if_pos hp, if_pos hp, List.flatMap_cons]
    · rw [if_neg hp, if_neg hp, List.nil_append]

/-- The entry of a time is the only one that holds what is complete at it. -/
lemma flatMap_filter_entries (t : Timeline) (time : Instant) :
    (t.entries.filter fun e => e.1 = time).flatMap (·.2) = t.completedAt time := by
  simp only [completedAt, SortedMap.get?]
  have hord := t.ordered
  generalize t.entries = es at hord
  induction es with
  | nil => rfl
  | cons e es ih =>
    obtain ⟨hd, tl⟩ := List.pairwise_cons.mp hord
    by_cases hk : e.1 = time
    · have hrest : es.filter (fun e => e.1 = time) = [] := by
        rw [List.filter_eq_nil_iff]
        intro e' he' h'
        have hlt := hd e' he'
        rw [hk, of_decide_eq_true h', Std.ReflOrd.compare_self] at hlt
        cases hlt
      simp [hk, hrest]
    · have hne : ¬compare time e.1 = .eq := fun h => hk (Std.LawfulEqOrd.eq_of_compare h).symm
      simp [hk, hne, ih tl]

/-- The list holds, of each time, the observations complete at it. -/
lemma Filed.filter_toList {t : Timeline} (h : t.Filed) (time : Instant) :
    t.toList.filter (·.endTime = time) = t.completedAt time := by
  rw [h.filter_endTime (fun time' => decide (time' = time)), flatMap_filter_entries]

/-- A part of a timeline is a part of the list. -/
lemma Filed.between_eq {t : Timeline} (h : t.Filed) (start finish : Instant) :
    t.between start finish =
      t.toList.filter fun o => start < o.endTime && o.endTime ≤ finish :=
  (h.filter_endTime fun time => start < time && time ≤ finish).symm

/-- What a part holds lies within its times. -/
lemma Filed.mem_between {t : Timeline} (h : t.Filed) {start finish : Instant} {o : Observation}
    (ho : o ∈ t.between start finish) : start < o.endTime ∧ o.endTime ≤ finish := by
  rw [h.between_eq, List.mem_filter] at ho
  simpa using ho.2

/-- A part of a timeline depends only on the times up to its end. -/
lemma between_congr {t t' : Timeline} (h : t.Filed) (h' : t'.Filed) {start finish : Instant}
    (heq : ∀ time ≤ finish, t.completedAt time = t'.completedAt time) :
    t.between start finish = t'.between start finish := by
  rw [h.between_eq, h'.between_eq]
  apply eq_of_pairwise_of_filter_eq Observation.endTime
  · exact h.pairwise_toList.filter _
  · exact h'.pairwise_toList.filter _
  · intro time
    rw [List.filter_comm, List.filter_comm (l := t'.toList), h.filter_toList, h'.filter_toList]
    by_cases htime : time ≤ finish
    · rw [heq time htime]
    · -- what is complete after the end is left out on both sides
      have hout : ∀ {s : Timeline}, s.Filed → (s.completedAt time).filter
          (fun o => start < o.endTime && o.endTime ≤ finish) = [] := by
        intro s hs
        rw [List.filter_eq_nil_iff]
        intro o ho
        simp [hs time o ho, htime]
      rw [hout h, hout h']

end Timeline

end MarketHistory
