import MarketHistory.Subscription.TickTypes
import Mathlib.Tactic.Lemma

/-!
# The finest resolution

The finest of some resolutions is the least of them (`Resolution.finest?_eq_some_iff`), and there is
none only among no resolutions (`Resolution.finest?_eq_none_iff`).
-/

namespace MarketHistory

namespace Resolution

lemma finer_eq_or (a b : Resolution) : a.finer b = a ∨ a.finer b = b := by
  unfold finer
  split
  · exact .inl rfl
  · exact .inr rfl

lemma finer_le (a b : Resolution) : a.finer b ≤ a ∧ a.finer b ≤ b := by
  cases a <;> cases b <;> decide

/-- The finest resolution is one of them that is no coarser than any. -/
lemma exists_finest?_eq (best : Resolution) (resolutions : List Resolution) :
    ∃ finest ∈ best :: resolutions, finest? (best :: resolutions) = some finest ∧
      ∀ r ∈ best :: resolutions, finest ≤ r := by
  induction resolutions generalizing best with
  | nil =>
    refine ⟨best, List.mem_singleton_self best, rfl, fun r hr => ?_⟩
    rw [List.mem_singleton.mp hr]
    cases best <;> decide
  | cons next resolutions ih =>
    obtain ⟨finest, hmem, hfinest, hle⟩ := ih (best.finer next)
    have hfirst : finest ≤ best.finer next := hle _ List.mem_cons_self
    refine ⟨finest, ?_, hfinest, fun r hr => ?_⟩
    · rcases List.mem_cons.mp hmem with rfl | hmem
      · rcases finer_eq_or best next with h | h <;> simp [h]
      · exact List.mem_cons_of_mem _ (List.mem_cons_of_mem _ hmem)
    · rcases List.mem_cons.mp hr with rfl | hr
      · exact Std.TransCmp.isLE_trans hfirst (finer_le r next).1
      · rcases List.mem_cons.mp hr with rfl | hr
        · exact Std.TransCmp.isLE_trans hfirst (finer_le best r).2
        · exact hle r (List.mem_cons_of_mem _ hr)

lemma eq_of_le_of_le {a b : Resolution} (hab : a ≤ b) (hba : b ≤ a) : a = b := by
  revert hab hba
  cases a <;> cases b <;> decide

lemma finest?_eq_none_iff {resolutions : List Resolution} :
    finest? resolutions = none ↔ resolutions = [] := by
  cases resolutions with
  | nil => simp [finest?]
  | cons best resolutions =>
    obtain ⟨finest, -, hfinest, -⟩ := exists_finest?_eq best resolutions
    simp [hfinest]

lemma finest?_eq_some_iff {resolutions : List Resolution} {r : Resolution} :
    finest? resolutions = some r ↔ r ∈ resolutions ∧ ∀ r' ∈ resolutions, r ≤ r' := by
  cases resolutions with
  | nil => simp [finest?]
  | cons best resolutions =>
    obtain ⟨finest, hmem, hfinest, hle⟩ := exists_finest?_eq best resolutions
    rw [hfinest, Option.some_inj]
    constructor
    · rintro rfl
      exact ⟨hmem, hle⟩
    · rintro ⟨hr, hler⟩
      exact eq_of_le_of_le (hle r hr) (hler finest hmem)

end Resolution

end MarketHistory
