import MarketHistory.Proofs.Desk.Subscribed
import MarketHistory.Proofs.Subscription.Finest
import Mathlib.Data.List.Nodup

/-!
# The catalog as a log

Subscriptions are added and removed in any order. The catalog tells at every moment what the log of
these changes tells (`Catalog.catalog_of_log`): for each symbol the subscriptions that were added
since it was last removed, each once and in the order in which they were first added.
-/

namespace MarketHistory

/-- No subscription of a symbol is there twice: a change adds one only if it is not there. -/
lemma nodup_subscribed (changes : List Change) (symbol : Symbol) :
    (subscribed changes symbol).Nodup := by
  induction changes using List.reverseRecOn with
  | nil => simp [subscribed, Change.subscriptionsTo]
  | append_singleton changes c ih =>
    rw [subscribed_concat]
    split
    · exact List.nodup_nil
    · rw [List.nodup_append]
      refine ⟨ih, ?_, ?_⟩
      · apply List.Nodup.filter
        apply List.Nodup.filter
        cases hadded : c.subscription? <;> simp [hadded]
      · rintro s hs added hadded rfl
        simp [List.removeAll, hs] at hadded

namespace Catalog

variable (c : Catalog) (symbol : Symbol)

/-- As many subscriptions are removed as the symbol had. -/
lemma fst_removeCounted : (c.removeCounted symbol).1 = (c.subscriptionsOf symbol).length := by
  simp only [removeCounted, subscriptionsOf]
  cases c.subscriptions.get? symbol <;> simp

lemma subscriptionsOf_remove_of_ne {other : Symbol} (hother : other ≠ symbol) :
    (c.remove symbol).subscriptionsOf other = c.subscriptionsOf other := by
  have hget : (c.remove symbol).subscriptions.get? other = c.subscriptions.get? other := by
    show (c.subscriptions.erase symbol).get? other = _
    rw [SortedMap.get?_erase]
    simp [hother]
  simp only [subscriptionsOf, hget]

lemma finestResolution?_eq_some_iff (r : Resolution) :
    c.finestResolution? symbol = some r ↔
      (∃ s ∈ c.userSubscriptionsOf symbol, s.resolution = r) ∧
        ∀ s ∈ c.userSubscriptionsOf symbol, r ≤ s.resolution := by
  simp [finestResolution?, Resolution.finest?_eq_some_iff]

/-- Whatever was added and removed in whatever order, the catalog holds of every symbol the
subscriptions that were added since it was last removed, each once and in the order in which they
were first added. To the user belong those of them that are not internal, and the finest resolution
is the least of the user's, if there are any. Removing a symbol tells how many subscriptions it had
and leaves those of all others. -/
theorem catalog_of_log (tickTypes : SortedMap SecurityType (List TickType)) (changes : List Change)
    (symbol : Symbol) :
    let catalog := afterAll ⟨.empty, tickTypes⟩ changes
    let log := subscribed changes symbol
    let users := log.filter (!·.isInternal)
    (catalog.subscriptionsOf symbol = log ∧ log.Nodup) ∧
      catalog.userSubscriptionsOf symbol = users ∧
      ((catalog.removeCounted symbol).1 = log.length ∧
        ∀ other ≠ symbol, (catalog.removeCounted symbol).2.subscriptionsOf other =
          catalog.subscriptionsOf other) ∧
      (catalog.finestResolution? symbol = none ↔ users = []) ∧
      ∀ r, catalog.finestResolution? symbol = some r ↔
        (∃ s ∈ users, s.resolution = r) ∧ ∀ s ∈ users, r ≤ s.resolution := by
  intro catalog log users
  have hlog : catalog.subscriptionsOf symbol = log := subscriptionsOf_afterAll tickTypes changes symbol
  have husers : catalog.userSubscriptionsOf symbol = users := by
    rw [userSubscriptionsOf, hlog]
  refine ⟨⟨hlog, nodup_subscribed changes symbol⟩, husers, ⟨?_, ?_⟩, ?_, ?_⟩
  · rw [fst_removeCounted, hlog]
  · intro other hother
    exact catalog.subscriptionsOf_remove_of_ne symbol hother
  · rw [finestResolution?, Resolution.finest?_eq_none_iff, List.map_eq_nil_iff, husers]
  · intro r
    rw [finestResolution?_eq_some_iff, husers]

end Catalog

end MarketHistory
