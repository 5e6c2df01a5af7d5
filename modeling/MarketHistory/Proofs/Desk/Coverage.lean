import MarketHistory.Proofs.Desk.Clamping
import MarketHistory.Proofs.Desk.Subscribed
import Mathlib.Data.List.Destutter

/-!
# What a warm-up covers

With the usual priorities of tick types, some subscription serves a request for data of all types of
any symbol that is not canonical: whatever is subscribed to, and whatever of it fits, the defaults
have trades or quotes at every resolution. The warm-up therefore requests data of all known symbols
that are not canonical, in their order and up to the present (`warmUp_covers`).
-/

namespace MarketHistory

/-! ### Runs of one symbol -/

section Destutter

variable {α β : Type} [DecidableEq α] {found : α → List β}

lemma destutter'_map_const_append (a : α) (bs : List β) (rest : List α) :
    ((bs.map fun _ => a) ++ rest).destutter' (· ≠ ·) a = rest.destutter' (· ≠ ·) a := by
  induction bs with
  | nil => rfl
  | cons b bs ih =>
    rw [List.map_cons, List.cons_append, List.destutter'_cons_neg _ (fun h => h rfl), ih]

lemma destutter'_flatMap_const {a : α} {as : List α} (hchain : (a :: as).IsChain (· ≠ ·))
    (hfound : ∀ a ∈ as, found a ≠ []) :
    (as.flatMap fun a => (found a).map fun _ => a).destutter' (· ≠ ·) a = a :: as := by
  induction as generalizing a with
  | nil => rfl
  | cons next as ih =>
    obtain ⟨hne, hchain⟩ := List.isChain_cons_cons.mp hchain
    obtain ⟨b, bs, hb⟩ := List.exists_cons_of_ne_nil (hfound next List.mem_cons_self)
    have hfound' : ∀ a ∈ as, found a ≠ [] :=
      fun a ha => hfound a (List.mem_cons_of_mem next ha)
    rw [List.flatMap_cons, hb, List.map_cons, List.cons_append, List.destutter'_cons_pos _ hne,
      destutter'_map_const_append, ih hchain hfound']

/-- What is found for each of several elements, collapsed to these elements. -/
lemma destutter_flatMap_const {as : List α} (hchain : as.IsChain (· ≠ ·))
    (hfound : ∀ a ∈ as, found a ≠ []) :
    (as.flatMap fun a => (found a).map fun _ => a).destutter (· ≠ ·) = as := by
  cases as with
  | nil => rfl
  | cons a as =>
    obtain ⟨b, bs, hb⟩ := List.exists_cons_of_ne_nil (hfound a List.mem_cons_self)
    have hfound' : ∀ a ∈ as, found a ≠ [] :=
      fun a' ha => hfound a' (List.mem_cons_of_mem a ha)
    rw [List.flatMap_cons, hb, List.map_cons, List.cons_append, List.destutter_cons',
      destutter'_map_const_append, destutter'_flatMap_const hchain hfound']

end Destutter

/-! ### Subscriptions for every symbol -/

/-- Of the usual tick types of a security type some have data at every resolution that are not open
interest. -/
lemma SecurityType.exists_mem_tickTypes (securityType : SecurityType) (resolution : Resolution) :
    ∃ t ∈ securityType.tickTypes, t.ExistsAt securityType resolution ∧
      (DataType.ofTickType t resolution.isTick).TakenBy .base := by
  cases securityType <;> cases resolution <;> decide

namespace Resolver

variable {r : Resolver} (h : r.catalog.tickTypes = .empty) {symbol : Symbol}
  (hcanonical : symbol.canonical = false)

include h hcanonical

lemma synthesized_ne_nil (explicit : Option Resolution) :
    r.synthesized symbol .base explicit ≠ [] := by
  intro hnil
  let resolution := r.effectiveResolution symbol explicit
  have hstandIn := r.standsIn_synthesized symbol .base explicit
  rw [hnil] at hstandIn
  have hnone : r.standInTypes symbol .base resolution = [] :=
    List.forall₂_nil_left_iff.mp hstandIn
  obtain ⟨t, ht, hexists⟩ := symbol.securityType.exists_mem_tickTypes resolution
  have hmem : t ∈ r.standInTypes symbol .base resolution := by
    rw [standInTypes, hcanonical, Catalog.tickTypesOf, h]
    exact List.mem_filter.mpr ⟨ht, decide_eq_true hexists⟩
  rw [hnone] at hmem
  cases hmem

lemma value_resolve_ne_nil (explicit : Option Resolution) :
    (r.resolve symbol .base explicit).value ≠ [] := by
  by_cases hfitting : r.fitting symbol .base explicit = []
  · rw [r.value_resolve_of_not_fitting symbol .base explicit hfitting]
    exact synthesized_ne_nil h hcanonical explicit
  · rw [r.resolve_of_fitting symbol .base explicit hfitting]
    exact (r.registered_eq_nil_iff symbol .base explicit).not.mpr hfitting

end Resolver

/-! ### The known symbols -/

lemma Symbol.isChain_ne {symbols : List Symbol}
    (h : symbols.Pairwise fun a b => compare a b = .lt) : symbols.IsChain (· ≠ ·) := by
  refine (h.imp fun {a b} hlt => ?_).isChain
  rintro rfl
  have hself : compare a a = .eq := Std.ReflCmp.compare_self
  rw [hself] at hlt
  cases hlt

/-- The call for a warm-up that is set is for all known symbols, up to the present. -/
lemma Desk.eq_of_warmUpCall? {d : Desk} {call : Call} (hspec : d.warmUp.spec ≠ none)
    (hcall : d.warmUpCall? = .ok call) :
    ∃ reach explicit, call = ⟨.all d.knownSymbols, reach, explicit⟩ ∧ reach.finish = d.now := by
  obtain ⟨spec, hspec⟩ := Option.ne_none_iff_exists'.mp hspec
  simp only [warmUpCall?, hspec, reach?] at hcall
  cases spec with
  | bars count explicit =>
    cases hcall
    exact ⟨_, _, rfl, rfl⟩
  | span length explicit =>
    dsimp only at hcall
    cases hstart : spanStart d.now length with
    | ok start =>
      rw [hstart] at hcall
      cases hcall
      exact ⟨_, _, rfl, rfl⟩
    | error e =>
      rw [hstart] at hcall
      cases hcall

/-- The symbols of the requests for data of all types, as they follow each other. -/
lemma Planner.map_symbol_requests {p : Planner} (h : p.resolver.catalog.Filed)
    (symbols : List Symbol) {reach : Reach} {explicit : Option Resolution}
    (hrefuses : reach.refuses explicit = false) :
    (p.requests (.all symbols) reach explicit).map (·.symbol) =
      (symbols.filter (!·.canonical)).flatMap fun symbol =>
        (p.resolver.resolve symbol .base explicit).value.map fun _ => symbol := by
  rw [requests_eq, hrefuses, if_neg Bool.false_ne_true, List.map_map, Resolver.serving,
    List.map_flatMap]
  refine congrArg (List.flatMap · _) (funext fun symbol => ?_)
  rw [List.map_map]
  exact List.map_congr_left fun s hs => Resolver.symbol_of_mem_resolve h hs

namespace Desk

/-- However a desk with the usual priorities of tick types came about, a symbol that is not
canonical is served by some subscription when data of all types are requested. The requests for a
warm-up that is set, if they are made, are therefore for the known symbols that are not canonical,
in their strict order and leaving out none, and they all end at the present. -/
theorem warmUp_covers (d : Desk) (h : d.catalog.tickTypes = .empty) (changes : List Change) :
    let desk := d.blank.afterAll changes
    (∀ symbol, symbol.canonical = false → ∀ explicit,
        (desk.resolver.resolve symbol .base explicit).value ≠ []) ∧
      (desk.knownSymbols.Pairwise (fun a b => compare a b = .lt) ∧
        ∀ symbol, symbol ∈ desk.knownSymbols ↔ desk.securities.contains symbol = true) ∧
      ∀ requests, desk.warmUp.spec ≠ none → desk.warmUpRequests.run.value = .ok requests →
        (requests.map (·.symbol)).destutter (· ≠ ·) = desk.knownSymbols.filter (!·.canonical) ∧
        ∀ r ∈ requests, r.endTime = desk.now := by
  intro desk
  have htickTypes : desk.catalog.tickTypes = .empty := (d.blank.tickTypes_afterAll changes).trans h
  have hfiled : desk.catalog.Filed := (d.consistent_afterAll changes).catalog
  have hserved : ∀ symbol, symbol.canonical = false → ∀ explicit,
      (desk.resolver.resolve symbol .base explicit).value ≠ [] :=
    fun symbol hcanonical explicit => Resolver.value_resolve_ne_nil htickTypes hcanonical explicit
  have hsorted : desk.knownSymbols.Pairwise fun a b => compare a b = .lt :=
    desk.securities.registered.pairwise_keys
  refine ⟨hserved, ⟨hsorted, fun _ => SortedMap.mem_keys_iff _⟩, fun requests hspec hvalue => ?_⟩
  obtain ⟨call, hcall, haccepts, rfl⟩ := exists_call_of_warmUpRequests hvalue
  obtain ⟨reach, explicit, rfl, hfinish⟩ := eq_of_warmUpCall? hspec hcall
  rw [Planner.requestsOf]
  constructor
  · rw [Planner.map_symbol_requests hfiled _ haccepts.1]
    refine destutter_flatMap_const (Symbol.isChain_ne (hsorted.filter _)) fun symbol hsymbol => ?_
    exact hserved symbol ((Bool.not_eq_true' _).mp (List.mem_filter.mp hsymbol).2) explicit
  · intro r hr
    obtain ⟨e, -, rfl⟩ := Planner.exists_of_mem_requests hr
    exact hfinish

/-- A share of which only quotes are subscribed to is warmed up with daily bars of trades. -/
theorem warmUp_covers_of_quotes :
    let changes : List Change := [
      .addSecurity Planner.spy,
      .subscribe (.of Planner.spy .minute .quote .utc),
      .setWarmUp (.bars 5 (some .daily))]
    let desk := lastMidnight.blank.afterAll changes
    ∃ requests, desk.warmUpRequests.run.value = .ok requests ∧
      requests.map (·.dataType) = [.tradeBar] ∧
      (requests.map (·.symbol)).destutter (· ≠ ·) = [Planner.spy] := by
  intro changes desk
  have htypes : desk.warmUpRequests.run.value.toOption.map (·.map (·.dataType)) =
      some [.tradeBar] := by decide +kernel
  cases hvalue : desk.warmUpRequests.run.value with
  | error e =>
    rw [hvalue] at htypes
    cases htypes
  | ok requests =>
    rw [hvalue] at htypes
    obtain ⟨_, _, hcovers⟩ := warmUp_covers lastMidnight rfl changes
    refine ⟨requests, rfl, Option.some.inj htypes, ?_⟩
    rw [(hcovers requests (by decide +kernel) hvalue).1]
    decide +kernel

end Desk

end MarketHistory
