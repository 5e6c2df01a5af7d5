import MarketHistory.Proofs.Archive.Selection
import Mathlib.Data.List.Flatten
import Mathlib.Data.List.Perm.Basic

/-!
# How often an observation is answered

The answer to a batch holds every observation of the log once for each request of the batch that
asks for it (`perm_slices_loaded`). Where no two requests ask for the same observation, nothing is
answered more often than it was loaded.
-/

namespace MarketHistory

/-! ### Lists up to order -/

/-- Two lists are the same up to order if they agree on the elements of every key. -/
lemma perm_of_filter_eq {α κ : Type} [DecidableEq α] [DecidableEq κ] (key : α → κ)
    {l l' : List α} (h : ∀ k, l.filter (key · = k) = l'.filter (key · = k)) : l.Perm l' := by
  rw [List.perm_iff_count]
  intro a
  have hcount : ∀ l : List α, (l.filter (key · = key a)).count a = l.count a := fun _ =>
    List.count_filter (decide_eq_true rfl)
  rw [← hcount l, ← hcount l', h]

section Choosing

variable {ι α β : Type}

/-- Choosing from a list several times is taking each element as often as it is chosen. -/
lemma perm_flatMap_filter (p : ι → α → Bool) (f : α → β) (is : List ι) (as : List α) :
    (is.flatMap fun i => (as.filter (p i)).map f).Perm
      (as.flatMap fun a => List.replicate (is.countP (p · a)) (f a)) := by
  induction is with
  | nil => simp
  | cons i is ih =>
    have hone : (as.filter (p i)).map f =
        as.flatMap fun a => List.replicate (if p i a then 1 else 0) (f a) := by
      clear ih
      induction as with
      | nil => rfl
      | cons a as ih => cases h : p i a <;> simp [h, ih]
    simp only [List.countP_cons, Nat.add_comm _ (if _ then 1 else 0), List.replicate_add]
    rw [List.flatMap_cons, hone]
    exact (ih.append_left _).trans (List.flatMap_append_perm as _ _)

/-- Taking each element at most once is taking a part of the list. -/
lemma flatMap_replicate_sublist {count : α → Nat} (f : α → β) {as : List α}
    (h : ∀ a ∈ as, count a ≤ 1) :
    (as.flatMap fun a => List.replicate (count a) (f a)).Sublist (as.map f) := by
  induction as with
  | nil => exact List.Sublist.slnil
  | cons a as ih =>
    have htail := ih fun b hb => h b (List.mem_cons_of_mem a hb)
    rw [List.flatMap_cons, List.map_cons]
    rcases Nat.le_one_iff_eq_zero_or_eq_one.mp (h a List.mem_cons_self) with hzero | hone
    · rw [hzero, List.replicate_zero, List.nil_append]
      exact htail.cons (f a)
    · rw [hone, List.replicate_one, List.singleton_append]
      exact htail.cons_cons (f a)

/-- At most one element satisfies what no two elements satisfy both. -/
lemma countP_le_one_of_pairwise {p : ι → Bool} {is : List ι}
    (h : is.Pairwise fun i j => p i = true → p j = true → False) : is.countP p ≤ 1 := by
  induction is with
  | nil => exact Nat.zero_le 1
  | cons i is ih =>
    obtain ⟨hhead, htail⟩ := List.pairwise_cons.mp h
    rw [List.countP_cons]
    cases hi : p i with
    | false => exact ih htail
    | true =>
      have hnone : is.countP p = 0 :=
        List.countP_eq_zero.mpr fun j hj hpj => hhead j hj hi hpj
      rw [hnone]
      exact Nat.le_refl 1

end Choosing

/-! ### Answers of a loaded archive -/

namespace Archive

/-- The list of a timeline is what was recorded, up to order. -/
lemma perm_toList_record (os : List Observation) :
    (Timeline.record .empty os).toList.Perm os := by
  apply perm_of_filter_eq Observation.endTime
  intro time
  rw [(Timeline.filed_empty.record os).filter_toList, Timeline.completedAt_record,
    Timeline.completedAt_empty, List.nil_append]

/-- The answer to a request is what it asks for of the log, up to order. -/
lemma perm_matching_loaded (clocks : ZoneClocks) (loads : List Load) (failure : Option String)
    (r : Request) :
    ((loaded clocks loads failure).matching r).Perm (r.pick clocks (Load.log loads)) :=
  perm_of_filter_eq Observation.endTime (filter_matching_loaded clocks loads failure r)

/-- The slices that answer a batch hold each observation of the log once for each request that asks
for it. -/
lemma perm_slices_loaded (clocks : ZoneClocks) (loads : List Load) (failure : Option String)
    (batch : List Request) :
    (((loaded clocks loads failure).slices batch).flatMap Slice.data).Perm
      ((Load.log loads).flatMap fun e =>
        List.replicate (batch.countP fun r => r.Wants clocks e.1 e.2) e.2) := by
  rw [slices, Timeline.flatMap_data_slices]
  have hpicks : (batch.flatMap (loaded clocks loads failure).matching).Perm
      (batch.flatMap fun r => r.pick clocks (Load.log loads)) :=
    List.Perm.flatMap_left batch fun r _ => perm_matching_loaded clocks loads failure r
  have hcounts := perm_flatMap_filter (fun (r : Request) (e : Resolution × Observation) =>
    decide (r.Wants clocks e.1 e.2)) (·.2) batch (Load.log loads)
  exact ((perm_toList_record _).trans hpicks).trans hcounts

end Archive

end MarketHistory
