import MarketHistory.Proofs.Desk.Setup
import MarketHistory.Proofs.Subscription.Serving
import Mathlib.Data.List.DropRight

/-!
# The subscriptions of a desk

The subscriptions of a symbol are those that were added since they were last ended, each once and in
the order in which they were first added (`subscriptionsOf_afterAll`). Those of them that fit a
request serve it, and if none fits, others stand in for them (`resolve_afterAll`).
-/

namespace MarketHistory

/-- Whether a change ends the subscriptions to a symbol. -/
def Change.ends (symbol : Symbol) : Change → Bool
  | unsubscribe ended => ended = symbol
  | _                 => false

/-- The subscriptions to a symbol that changes add, repeated or not. -/
def Change.subscriptionsTo (symbol : Symbol) (changes : List Change) : List Subscription :=
  (changes.filterMap subscription?).filter (·.symbol = symbol)

/-- The subscriptions to a symbol after some changes: those added since they were last ended, each
once, in the order in which they were first added. -/
def subscribed (changes : List Change) (symbol : Symbol) : List Subscription :=
  (Change.subscriptionsTo symbol (changes.rtakeWhile (!·.ends symbol))).eraseDups

lemma eraseDups_of_length_le_one {l : List Subscription} (h : l.length ≤ 1) :
    l.eraseDups = l := by
  cases l with
  | nil => rfl
  | cons s rest =>
    have hlength : rest.length = 0 := Nat.le_zero.mp (Nat.le_of_succ_le_succ h)
    have hrest : rest = [] := List.eq_nil_of_length_eq_zero hlength
    rw [hrest, List.eraseDups_cons, List.filter_nil, List.eraseDups_nil]

/-- One more change ends the subscriptions or adds its own unless it is there. -/
lemma subscribed_concat (changes : List Change) (c : Change) (symbol : Symbol) :
    subscribed (changes ++ [c]) symbol =
      if c.ends symbol then []
      else subscribed changes symbol ++
        (Change.subscriptionsTo symbol [c]).removeAll (subscribed changes symbol) := by
  cases hends : c.ends symbol with
  | true => simp [subscribed, hends, Change.subscriptionsTo]
  | false =>
    let before := Change.subscriptionsTo symbol (changes.rtakeWhile (!·.ends symbol))
    let added := Change.subscriptionsTo symbol [c]
    have hremove : added.removeAll before.eraseDups = added.removeAll before :=
      List.filter_congr fun s _ => by simp only [List.elem_eq_mem, List.mem_eraseDups]
    -- what one change adds is not repeated
    have hone : (added.removeAll before).eraseDups = added.removeAll before :=
      eraseDups_of_length_le_one <|
        calc (added.removeAll before).length
            ≤ added.length := List.length_filter_le ..
          _ ≤ ([c].filterMap Change.subscription?).length := List.length_filter_le ..
          _ ≤ 1 := List.length_filterMap_le ..
    calc subscribed (changes ++ [c]) symbol
        = (before ++ added).eraseDups := by
          simp [subscribed, hends, Change.subscriptionsTo, before, added]
      _ = before.eraseDups ++ added.removeAll before := by rw [List.eraseDups_append, hone]
      _ = subscribed changes symbol ++ added.removeAll (subscribed changes symbol) := by
          rw [← hremove]
          rfl

namespace Catalog

/-- The catalog after a change. -/
def after (c : Catalog) : Change → Catalog
  | .subscribe s        => (c.add s).value
  | .unsubscribe symbol => c.remove symbol
  | _                   => c

variable (c : Catalog) (change : Change)

lemma tickTypes_after : (c.after change).tickTypes = c.tickTypes := by
  cases change with
  | subscribe s =>
    simp only [after, add]
    split <;> rfl
  | _ => rfl

/-- A change ends the subscriptions of a symbol or adds its own unless it is there. -/
lemma subscriptionsOf_after (symbol : Symbol) :
    (c.after change).subscriptionsOf symbol =
      if change.ends symbol then []
      else c.subscriptionsOf symbol ++
        (Change.subscriptionsTo symbol [change]).removeAll (c.subscriptionsOf symbol) := by
  cases change with
  | subscribe s =>
    show ((c.add s).value.subscriptions.get? symbol).getD [] = c.subscriptionsOf symbol ++ _
    rw [get?_add, Change.subscriptionsTo, subscriptionsOf]
    by_cases hsymbol : s.symbol = symbol
    · by_cases hmem : s ∈ (c.subscriptions.get? symbol).getD [] <;>
        simp [including, Change.subscription?, List.removeAll, hsymbol, hmem]
    · simp [hsymbol, Change.subscription?]
  | unsubscribe ended =>
    have hnone : (Change.subscriptionsTo symbol [.unsubscribe ended]).removeAll
        (c.subscriptionsOf symbol) = [] := rfl
    show ((c.subscriptions.erase ended).get? symbol).getD [] = _
    rw [hnone, List.append_nil, SortedMap.get?_erase]
    by_cases hsymbol : ended = symbol
    · simp [Change.ends, hsymbol]
    · simp [Change.ends, subscriptionsOf, hsymbol, Ne.symm hsymbol]
  | _ => exact (List.append_nil _).symm

/-- The catalog after some changes, one after the other. -/
def afterAll (c : Catalog) (changes : List Change) : Catalog := changes.foldl after c

lemma tickTypes_afterAll (changes : List Change) : (c.afterAll changes).tickTypes = c.tickTypes := by
  induction changes generalizing c with
  | nil => rfl
  | cons change changes ih => exact (ih (c.after change)).trans (c.tickTypes_after change)

/-- Where there are no subscriptions at first, a symbol has those of the log. -/
lemma subscriptionsOf_afterAll (tickTypes : SortedMap SecurityType (List TickType))
    (changes : List Change) (symbol : Symbol) :
    (afterAll ⟨.empty, tickTypes⟩ changes).subscriptionsOf symbol = subscribed changes symbol := by
  induction changes using List.reverseRecOn with
  | nil => rfl
  | append_singleton changes change ih =>
    rw [afterAll, List.foldl_concat, ← afterAll, subscriptionsOf_after, ih, subscribed_concat]

end Catalog

namespace Desk

variable (d : Desk) (changes : List Change)

lemma catalog_after (c : Change) : (d.after c).catalog = d.catalog.after c := by
  cases c with
  | advanceClock span =>
    simp only [after, change?]
    cases d.now.add? span <;> rfl
  | setWarmUp spec =>
    simp only [after, change?, WarmUp.set]
    cases d.warmUp.locked <;> rfl
  | _ => rfl

lemma catalog_afterAll : (d.afterAll changes).catalog = d.catalog.afterAll changes := by
  induction changes generalizing d with
  | nil => rfl
  | cons c changes ih =>
    show ((d.after c).afterAll changes).catalog = _
    rw [ih, catalog_after]
    rfl

lemma tickTypes_afterAll : (d.afterAll changes).catalog.tickTypes = d.catalog.tickTypes := by
  rw [catalog_afterAll, Catalog.tickTypes_afterAll]

lemma subscriptionsOf_afterAll (symbol : Symbol) :
    (d.blank.afterAll changes).catalog.subscriptionsOf symbol = subscribed changes symbol := by
  rw [catalog_afterAll]
  exact Catalog.subscriptionsOf_afterAll d.catalog.tickTypes changes symbol

/-- However a desk came about: if some of the subscriptions that were added to a symbol, and not
ended since, fit a request, these serve it, the best first and those of one quality in the order in
which they were added. If none fits, the request is served by subscriptions that stand in for them
at the effective resolution, one for each tick type of the symbol that has data of the requested
type, in the order of the priorities; a canonical symbol is then served by none. -/
theorem resolve_afterAll (symbol : Symbol) (requested : DataType) (explicit : Option Resolution) :
    let desk := d.blank.afterAll changes
    let resolution := desk.resolver.effectiveResolution symbol explicit
    let priorities := d.catalog.tickTypesOf symbol.securityType
    let fitting := (subscribed changes symbol).filter (·.Fits symbol requested explicit)
    let served := (desk.resolver.resolve symbol requested explicit).value
    (fitting ≠ [] → Subscription.Ranked priorities fitting served) ∧
      (fitting = [] →
        List.Forall₂ (fun s t => s.StandsInFor desk.resolver symbol resolution t) served
          (desk.resolver.standInTypes symbol requested resolution)) := by
  intro desk resolution priorities fitting served
  have hfitting : desk.resolver.fitting symbol requested explicit = fitting :=
    congrArg (List.filter _) (d.subscriptionsOf_afterAll changes symbol)
  have hpriorities : desk.catalog.tickTypesOf symbol.securityType = priorities := by
    rw [Catalog.tickTypesOf, tickTypes_afterAll]
    rfl
  rw [← hfitting, ← hpriorities]
  constructor
  · intro hsome
    show Subscription.Ranked _ _ (desk.resolver.resolve symbol requested explicit).value
    rw [Resolver.resolve_of_fitting _ _ _ _ hsome]
    exact desk.resolver.ranked_registered symbol requested explicit
  · intro hnone
    show List.Forall₂ _ (desk.resolver.resolve symbol requested explicit).value _
    rw [Resolver.value_resolve_of_not_fitting _ _ _ _ hnone]
    exact desk.resolver.standsIn_synthesized symbol requested explicit

end Desk

end MarketHistory
