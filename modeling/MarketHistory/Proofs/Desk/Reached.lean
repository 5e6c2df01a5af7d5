import MarketHistory.Desk.Change
import MarketHistory.Proofs.Archive.Log
import MarketHistory.Proofs.Planning.Calls

/-!
# Desks as they come about

A desk starts without subscriptions, securities and past data, and comes about by changes. However
it came about, every subscription stands under its own symbol, and the archive holds the log of all
loads so far (`consistent_afterAll`).
-/

namespace MarketHistory

/-! ### Catalogs -/

namespace Catalog

/-- Every subscription stands under its own symbol. -/
def Filed (c : Catalog) : Prop := ∀ symbol, ∀ s ∈ c.subscriptionsOf symbol, s.symbol = symbol

lemma Filed.add {c : Catalog} (h : c.Filed) (s : Subscription) : (c.add s).value.Filed := by
  simp only [Catalog.add]
  split
  · exact h
  · intro symbol s' hs'
    change s' ∈ ((c.subscriptions.push s.symbol s).get? symbol).getD [] at hs'
    rw [SortedMap.get?_push] at hs'
    split at hs'
    next hsymbol =>
      rcases List.mem_append.mp hs' with hs' | hs'
      · exact (h s.symbol s' hs').trans hsymbol.symm
      · rw [List.mem_singleton.mp hs', hsymbol]
    next => exact h symbol s' hs'

lemma Filed.remove {c : Catalog} (h : c.Filed) (symbol : Symbol) : (c.remove symbol).Filed := by
  intro symbol' s hs
  change s ∈ ((c.subscriptions.erase symbol).get? symbol').getD [] at hs
  rw [SortedMap.get?_erase] at hs
  split at hs
  · cases hs
  · exact h symbol' s hs

end Catalog

/-- Subscriptions that serve a request for a symbol are subscriptions to that symbol. -/
lemma Resolver.symbol_of_mem_resolve {r : Resolver} (h : r.catalog.Filed) {symbol : Symbol}
    {requested : DataType} {explicit : Option Resolution} {s : Subscription}
    (hs : s ∈ (r.resolve symbol requested explicit).value) : s.symbol = symbol := by
  simp only [resolve] at hs
  split at hs
  · obtain ⟨k, -, rfl⟩ := List.mem_map.mp hs
    rfl
  · have hsorted := (List.mem_filter.mp hs).1
    exact h symbol s (List.mem_mergeSort.mp hsorted)

lemma Resolver.symbol_of_mem_serving {r : Resolver} (h : r.catalog.Filed) {scope : Scope}
    {explicit : Option Resolution} {e : Symbol × Subscription}
    (he : e ∈ r.serving scope explicit) : e.2.symbol = e.1 := by
  obtain ⟨requested, hs⟩ := exists_mem_resolve_of_mem_serving he
  exact symbol_of_mem_resolve h hs

/-! ### Archives -/

namespace Archive

lemma foldl_store_withFailure (a : Archive) (failure : Option String) (resolution : Resolution)
    (os : List Observation) :
    os.foldl (·.store resolution) { a with failure } =
      { os.foldl (·.store resolution) a with failure } := by
  induction os generalizing a with
  | nil => rfl
  | cons o os ih => exact ih (a.store resolution o)

/-- One more load is the last one of the log. -/
lemma load_loaded (clocks : ZoneClocks) (loads : List Load) (failure : Option String)
    (resolution : Resolution) (os : List Observation) :
    ((loaded clocks loads failure).load resolution os).value =
      loaded clocks (loads ++ [⟨resolution, os⟩]) failure := by
  simp only [loaded, loadAll, List.foldl_append]
  exact foldl_store_withFailure _ failure resolution os

end Archive

/-! ### Changes -/

/-- The load that a change is, if it is one. -/
def Change.load? : Change → Option Load
  | load resolution observations => some ⟨resolution, observations⟩
  | _                            => none

namespace Desk

lemma afterAll_concat (d : Desk) (changes : List Change) (c : Change) :
    d.afterAll (changes ++ [c]) = (d.afterAll changes).after c := by
  simp [afterAll]

/-- A desk with the same settings, tick types, market hours, calendar and clocks and nothing else. -/
def blank (d : Desk) : Desk :=
  { d with
    catalog    := { d.catalog with subscriptions := .empty }
    archive    := .empty d.archive.clocks
    securities := .empty
    warmUp     := .initial }

/-- The catalog is filed, and the archive was loaded with these observations. -/
structure Consistent (d : Desk) (loads : List Load) : Prop where
  catalog : d.catalog.Filed
  archive : ∃ failure, d.archive = .loaded d.archive.clocks loads failure

lemma consistent_blank (d : Desk) : d.blank.Consistent [] where
  catalog := fun _ _ hs => nomatch hs
  archive := ⟨none, rfl⟩

/-- A change of something else. -/
lemma Consistent.congr {d d' : Desk} {loads : List Load} (h : d.Consistent loads)
    (hcatalog : d'.catalog = d.catalog) (harchive : d'.archive = d.archive) :
    d'.Consistent loads where
  catalog := hcatalog ▸ h.catalog
  archive := harchive ▸ h.archive

/-- A change adds its own load to the log, if it is one, and keeps the catalog filed. -/
lemma Consistent.after {d : Desk} {loads : List Load} (h : d.Consistent loads) (c : Change) :
    (d.after c).Consistent (loads ++ c.load?.toList) := by
  have hkeep : d.Consistent (loads ++ []) := by
    rw [List.append_nil]
    exact h
  cases c with
  | setClock now => exact hkeep.congr rfl rfl
  | advanceClock span =>
    simp only [Desk.after, change?]
    cases d.now.add? span with
    | some now => exact hkeep.congr rfl rfl
    | none => exact hkeep
  | addSecurity symbol => exact hkeep.congr rfl rfl
  | addSecurityWithHours symbol hours => exact hkeep.congr rfl rfl
  | removeSecurity symbol => exact hkeep.congr rfl rfl
  | addUniverse symbol => exact hkeep.congr rfl rfl
  | subscribe s => exact ⟨hkeep.catalog.add s, hkeep.archive⟩
  | unsubscribe symbol => exact ⟨hkeep.catalog.remove symbol, hkeep.archive⟩
  | load resolution os =>
    obtain ⟨failure, harchive⟩ := h.archive
    have hload : (d.archive.load resolution os).value =
        .loaded d.archive.clocks (loads ++ [⟨resolution, os⟩]) failure := by
      rw [harchive, Archive.clocks_loaded]
      exact Archive.load_loaded ..
    refine ⟨h.catalog, failure, ?_⟩
    show (d.archive.load resolution os).value =
      .loaded (d.archive.load resolution os).value.clocks (loads ++ [⟨resolution, os⟩]) failure
    rw [hload, Archive.clocks_loaded]
  | setFailure reason =>
    obtain ⟨failure, harchive⟩ := hkeep.archive
    refine ⟨h.catalog, reason, ?_⟩
    show { d.archive with failure := reason } =
      Archive.loaded d.archive.clocks (loads ++ []) reason
    rw [harchive, Archive.clocks_loaded]
    rfl
  | setWarmUp spec =>
    simp only [Desk.after, change?, WarmUp.set]
    cases d.warmUp.locked with
    | true => exact hkeep
    | false => exact hkeep.congr rfl rfl
  | lockWarmUp => exact hkeep.congr rfl rfl
  | observeWarmUp => exact hkeep.congr rfl rfl
  | finishWarmUp => exact hkeep.congr rfl rfl

lemma Consistent.afterAll {d : Desk} {loads : List Load} (h : d.Consistent loads)
    (changes : List Change) :
    (d.afterAll changes).Consistent (loads ++ changes.filterMap Change.load?) := by
  induction changes generalizing d loads with
  | nil =>
    rw [List.filterMap_nil, List.append_nil]
    exact h
  | cons c changes ih =>
    have hloads : (c :: changes).filterMap Change.load? =
        c.load?.toList ++ changes.filterMap Change.load? := by
      rw [List.filterMap_cons]
      cases c.load? <;> rfl
    rw [hloads, ← List.append_assoc]
    exact ih (h.after c)

/-- Whatever changes led to a desk, its catalog is filed and its archive was loaded with what the
changes load, in order. -/
lemma consistent_afterAll (d : Desk) (changes : List Change) :
    (d.blank.afterAll changes).Consistent (changes.filterMap Change.load?) :=
  (consistent_blank d).afterAll changes

end Desk

end MarketHistory
