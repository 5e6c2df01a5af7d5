import Mathlib.Data.List.Basic

/-!
# Sorting

What a list is after sorting: in the order of the comparison, and with elements that are alike in
the order that they had. So sorting undoes every other order exactly if no two elements are alike
(`mergeSort_perm_iff`).
-/

namespace MarketHistory

variable {α : Type}

section Comparison

variable {cmp : α → α → Ordering} [Std.TransCmp cmp]

/-- Of two elements one does not come after the other. -/
lemma isLE_or_isLE (a b : α) : ((cmp a b).isLE || (cmp b a).isLE) = true := by
  have hswap : cmp b a = (cmp a b).swap := Std.OrientedCmp.eq_swap
  rw [hswap]
  cases cmp a b <;> rfl

variable (cmp) in
/-- A list that is sorted by a comparison is in its order. -/
lemma pairwise_mergeSort_isLE (l : List α) :
    (l.mergeSort fun a b => (cmp a b).isLE).Pairwise fun a b => (cmp a b).isLE = true :=
  List.pairwise_mergeSort (fun _ _ _ => Std.TransCmp.isLE_trans) isLE_or_isLE l

end Comparison

/-- Sorting keeps the order of elements that may stand in any order. -/
lemma filter_mergeSort {le : α → α → Bool}
    (htrans : ∀ a b c, le a b = true → le b c = true → le a c = true)
    (htotal : ∀ a b, (le a b || le b a) = true) {p : α → Bool}
    (halike : ∀ a b, p a = true → p b = true → le a b = true) (l : List α) :
    (l.mergeSort le).filter p = l.filter p := by
  have hsorted : (l.filter p).Pairwise fun a b => le a b = true :=
    List.pairwise_of_forall_mem_list fun a ha b hb =>
      halike a b (List.mem_filter.mp ha).2 (List.mem_filter.mp hb).2
  -- sorting keeps them as a sublist, and as many of them as there were
  have hkept : (l.filter p).Sublist ((l.mergeSort le).filter p) := by
    have hsublist : (l.filter p).Sublist (l.mergeSort le) :=
      List.sublist_mergeSort htrans htotal hsorted List.filter_sublist
    simpa only [List.filter_filter, Bool.and_self] using hsublist.filter p
  have hperm : (l.mergeSort le).Perm l := List.mergeSort_perm l le
  exact (hkept.eq_of_length (hperm.filter p).length_eq.symm).symm

/-- Two elements in order stay so. -/
lemma mergeSort_pair {le : α → α → Bool} {a b : α} (h : le a b = true) :
    [a, b].mergeSort le = [a, b] := by
  simp [List.mergeSort, List.MergeSort.Internal.splitInTwo, h]

/-- A list without repetitions that is its own reverse holds no two elements. -/
lemma eq_of_mem_of_reverse_eq {l : List α} (hnodup : l.Nodup) (hreverse : l.reverse = l) {a b : α}
    (ha : a ∈ l) (hb : b ∈ l) : a = b := by
  cases l with
  | nil => cases ha
  | cons first rest =>
    -- the first element is the last one as well
    have hlast : (first :: rest).getLast? = some first := by
      rw [← List.head?_reverse, hreverse, List.head?_cons]
    cases rest with
    | nil => rw [List.mem_singleton.mp ha, List.mem_singleton.mp hb]
    | cons second rest =>
      rw [List.getLast?_cons_cons] at hlast
      exact absurd (List.mem_of_getLast? hlast) (List.nodup_cons.mp hnodup).1

section Comparison

variable {cmp : α → α → Ordering} [Std.TransCmp cmp]

/-- Sorting makes no difference between the orders of a list exactly if the comparison tells its
elements apart. -/
lemma mergeSort_perm_iff {l : List α} (hnodup : l.Nodup) :
    (∀ l' : List α, l'.Perm l → (l'.mergeSort fun a b => (cmp a b).isLE) =
        l.mergeSort fun a b => (cmp a b).isLE) ↔
      ∀ a ∈ l, ∀ b ∈ l, cmp a b = .eq → a = b := by
  constructor
  · intro hsame a ha b hb heq
    -- the elements like `a` stay in their order, also when that is reversed
    have hkept (l : List α) : (l.mergeSort fun a b => (cmp a b).isLE).filter
        (fun x => cmp x a = .eq) = l.filter fun x => cmp x a = .eq := by
      refine filter_mergeSort (fun _ _ _ => Std.TransCmp.isLE_trans) isLE_or_isLE
        (fun x y hx hy => ?_) l
      have hxa : cmp x a = .eq := of_decide_eq_true hx
      have hay : cmp a y = .eq := Std.OrientedCmp.eq_symm (of_decide_eq_true hy)
      rw [Std.TransCmp.eq_trans hxa hay, Ordering.isLE_eq]
    have hreverse : (l.filter fun x => cmp x a = .eq).reverse = l.filter fun x => cmp x a = .eq := by
      rw [← List.filter_reverse, ← hkept l.reverse, hsame _ (List.reverse_perm l), hkept l]
    refine eq_of_mem_of_reverse_eq (hnodup.filter _) hreverse ?_ ?_
    · exact List.mem_filter.mpr ⟨ha, decide_eq_true (Std.ReflCmp.compare_self)⟩
    · exact List.mem_filter.mpr ⟨hb, decide_eq_true (Std.OrientedCmp.eq_symm heq)⟩
  · intro hapart l' hperm
    have hsorted : (l'.mergeSort fun a b => (cmp a b).isLE).Perm
        (l.mergeSort fun a b => (cmp a b).isLE) :=
      ((List.mergeSort_perm _ _).trans hperm).trans (List.mergeSort_perm _ _).symm
    refine hsorted.eq_of_pairwise (fun a b ha hb hab hba => ?_) (pairwise_mergeSort_isLE cmp l')
      (pairwise_mergeSort_isLE cmp l)
    have heq : cmp a b = .eq := Std.OrientedCmp.isLE_antisymm hab hba
    exact hapart a (hperm.mem_iff.mp (List.mem_mergeSort.mp ha)) b (List.mem_mergeSort.mp hb) heq

end Comparison

end MarketHistory
