import MarketHistory.Proofs.Desk.Foresight
import MarketHistory.Proofs.Desk.Outcome

/-!
# Symbols apart

A query for data of several symbols makes the requests of each symbol as if it were asked for alone,
and every request picks data of its own symbol. The answer for one of the symbols is therefore what
the answer for all of them holds of it (`slicesFor_singleton`), also where slices are shared.
-/

namespace MarketHistory

/-- If one element of a list without repetitions contributes, its contribution is all there is. -/
lemma flatMap_eq_of_nodup {α β : Type} {f : α → List β} {as : List α} {a : α} (hnodup : as.Nodup)
    (ha : a ∈ as) (hnone : ∀ b ∈ as, b ≠ a → f b = []) : as.flatMap f = f a := by
  induction as with
  | nil => cases ha
  | cons b as ih =>
    obtain ⟨hb, hnodup⟩ := List.nodup_cons.mp hnodup
    rw [List.flatMap_cons]
    rcases List.mem_cons.mp ha with rfl | ha
    · have hrest : as.flatMap f = [] := List.flatMap_eq_nil_iff.mpr fun c hc =>
        hnone c (List.mem_cons_of_mem a hc) (ne_of_mem_of_not_mem hc hb)
      rw [hrest, List.append_nil]
    · have hfirst : f b = [] := hnone b List.mem_cons_self (ne_of_mem_of_not_mem ha hb).symm
      rw [hfirst, List.nil_append]
      exact ih hnodup ha fun c hc => hnone c (List.mem_cons_of_mem b hc)

/-! ### Requests of several symbols -/

/-- The scope of a call for data of several symbols, of all types or of one. -/
def Scope.several (symbols : List Symbol) : Option DataType → Scope
  | none           => all symbols
  | some requested => each symbols requested

section Several

variable (symbols : List Symbol) (requested? : Option DataType) (reach : Reach)
  (explicit : Option Resolution)

/-- Each symbol is served as if it were asked for alone. -/
lemma Resolver.serving_several (r : Resolver) :
    r.serving (.several symbols requested?) explicit =
      symbols.flatMap fun symbol => r.serving (.several [symbol] requested?) explicit := by
  induction symbols with
  | nil => cases requested? <;> rfl
  | cons symbol symbols ih =>
    rw [List.flatMap_cons, ← ih]
    cases requested? <;> cases hcanonical : symbol.canonical <;>
      simp [Scope.several, serving, hcanonical]

variable {symbols requested? explicit} in
lemma Resolver.symbol_mem_of_mem_serving {r : Resolver} {e : Symbol × Subscription}
    (he : e ∈ r.serving (.several symbols requested?) explicit) : e.1 ∈ symbols := by
  cases requested? with
  | none =>
    obtain ⟨symbol, hsymbol, he⟩ := List.mem_flatMap.mp he
    obtain ⟨s, -, rfl⟩ := List.mem_map.mp he
    exact (List.mem_filter.mp hsymbol).1
  | some requested =>
    obtain ⟨symbol, hsymbol, he⟩ := List.mem_flatMap.mp he
    obtain ⟨s, -, rfl⟩ := List.mem_map.mp he
    exact (List.mem_filter.mp hsymbol).1

namespace Planner

variable (p : Planner)

lemma requestsOf_several :
    p.requestsOf ⟨.several symbols requested?, reach, explicit⟩ = symbols.flatMap fun symbol =>
      p.requestsOf ⟨.several [symbol] requested?, reach, explicit⟩ := by
  simp only [requestsOf, requests_eq]
  split
  · exact (List.flatMap_eq_nil_iff.mpr fun _ _ => rfl).symm
  · rw [Resolver.serving_several, List.map_flatMap]
    cases requested? <;> cases reach <;> rfl

variable {p symbols requested? reach explicit} in
/-- A request is for one of the symbols. -/
lemma symbol_mem_of_mem_requestsOf (h : p.resolver.catalog.Filed) {r : Request}
    (hr : r ∈ p.requestsOf ⟨.several symbols requested?, reach, explicit⟩) :
    r.symbol ∈ symbols := by
  obtain ⟨e, he, rfl⟩ := exists_of_mem_requests hr
  show e.2.symbol ∈ symbols
  rw [Resolver.symbol_of_mem_serving h he]
  exact Resolver.symbol_mem_of_mem_serving he

end Planner

end Several

/-! ### Slices of several symbols -/

namespace Desk

/-- The slices that come back for a call for several symbols from an archive that was loaded so. -/
def slicesFor (d : Desk) (clocks : ZoneClocks) (loads : List Load) (failure : Option String)
    (requested? : Option DataType) (reach : Reach) (explicit : Option Resolution)
    (symbols : List Symbol) : List Slice :=
  (Archive.loaded clocks loads failure).slices
    (d.delivery (d.planner.requestsOf ⟨.several symbols requested?, reach, explicit⟩))

section Loaded

variable {d : Desk} (h : d.catalog.Filed) {clocks : ZoneClocks} {loads : List Load}
  {failure : Option String} {requested? : Option DataType} {reach : Reach}
  {explicit : Option Resolution} {symbols : List Symbol}

include h

/-- What comes back is about the symbols. -/
lemma symbol_mem_of_mem_slicesFor {s : Slice}
    (hs : s ∈ d.slicesFor clocks loads failure requested? reach explicit symbols) {o : Observation}
    (ho : o ∈ s.data) : o.symbol ∈ symbols := by
  have hdata : o ∈ Slice.dataAt (d.slicesFor clocks loads failure requested? reach explicit symbols)
      s.time :=
    List.mem_flatMap.mpr ⟨s, List.mem_filter.mpr ⟨hs, decide_eq_true rfl⟩, ho⟩
  rw [slicesFor, dataAt_slices_delivery] at hdata
  obtain ⟨r, hr, ho⟩ := List.mem_flatMap.mp hdata
  rw [d.symbol_of_mem_seenAt ho]
  exact Planner.symbol_mem_of_mem_requestsOf h hr

/-- For one of several symbols comes back what the slices for all of them hold of it. -/
lemma slicesFor_singleton (hsymbols : symbols.Nodup) {x : Symbol} (hx : x ∈ symbols) :
    d.slicesFor clocks loads failure requested? reach explicit [x] =
      Slice.choose (·.symbol = x)
        (d.slicesFor clocks loads failure requested? reach explicit symbols) := by
  apply (Archive.tidy_slices ..).eq_of_dataAt_eq ((Archive.tidy_slices ..).choose _)
  intro time
  let seen (symbol : Symbol) : List Observation :=
    (d.planner.requestsOf ⟨.several [symbol] requested?, reach, explicit⟩).flatMap
      (d.seenAt clocks (Load.log loads) time)
  have hseen : ∀ symbol, ∀ o ∈ seen symbol, o.symbol = symbol := by
    intro symbol o ho
    obtain ⟨r, hr, ho⟩ := List.mem_flatMap.mp ho
    rw [d.symbol_of_mem_seenAt ho]
    exact List.mem_singleton.mp (Planner.symbol_mem_of_mem_requestsOf h hr)
  have hall : (d.planner.requestsOf ⟨.several symbols requested?, reach, explicit⟩).flatMap
      (d.seenAt clocks (Load.log loads) time) = symbols.flatMap seen := by
    rw [Planner.requestsOf_several, List.flatMap_assoc]
  rw [Slice.dataAt_choose, dataAt_slices_delivery, dataAt_slices_delivery, hall,
    List.filter_flatMap]
  -- of the other symbols nothing is chosen
  rw [flatMap_eq_of_nodup hsymbols hx]
  · exact (List.filter_eq_self.mpr fun o ho => decide_eq_true (hseen x o ho)).symm
  · intro symbol _ hne
    refine List.filter_eq_nil_iff.mpr fun o ho hchosen => hne ?_
    rw [← hseen symbol o ho]
    exact of_decide_eq_true hchosen

variable (d requested? explicit) in
omit h in
/-- A call for several symbols fails for all of them alike, or for none. -/
lemma outcome_several (harchive : d.archive = .loaded clocks loads failure)
    (reach? : Except InvalidRequest Reach) :
    let outcome (symbols : List Symbol) :=
      d.outcome (reach?.map fun reach => ⟨.several symbols requested?, reach, explicit⟩)
    (∃ e, ∀ symbols, outcome symbols = .error e) ∨
      ∃ reach, ∀ symbols, outcome symbols =
        .ok (d.slicesFor clocks loads failure requested? reach explicit symbols) := by
  intro outcome
  cases reach? with
  | error e => exact .inl ⟨_, fun _ => rfl⟩
  | ok reach =>
    by_cases hrefuses : reach.refuses explicit = true
    · exact .inl ⟨_, fun _ => if_pos hrefuses⟩
    · have houtcome : ∀ symbols, outcome symbols = (d.historyOfRequests
          (d.planner.requestsOf ⟨.several symbols requested?, reach, explicit⟩)).value :=
        fun _ => if_neg hrefuses
      rcases d.value_historyOfRequests_cases with ⟨e, he⟩ | hslices
      · exact .inl ⟨e, fun symbols => (houtcome symbols).trans (he _)⟩
      · refine .inr ⟨reach, fun symbols => ?_⟩
        rw [houtcome, hslices, harchive]
        rfl

end Loaded

end Desk

/-! ### Queries for several symbols -/

/-- A query for data of several symbols, without the symbols. -/
inductive Inquiry where
  | range (start finish : Instant) (explicit : Option Resolution) (overrides : Overrides)
  | span (length : Span) (explicit : Option Resolution)
  | periods (count : Nat) (explicit : Option Resolution)
  | typed (requested : DataType) (window : Window) (explicit : Option Resolution)

namespace Inquiry

/-- The query for these symbols. -/
def ask (d : Desk) (symbols : List Symbol) : Inquiry → Query (List Slice)
  | range start finish explicit overrides =>
    d.historyRange symbols start finish explicit overrides
  | span length explicit            => d.historySpan symbols length explicit
  | periods count explicit          => d.historyPeriods symbols count explicit
  | typed requested window explicit => d.typedHistory symbols requested window explicit

/-- What of the slices is of the type of data, if there is one. -/
def keep (requested? : Option DataType) (slices : List Slice) : List Slice :=
  requested?.elim slices (Slice.restrict slices)

/-- Whatever the symbols, a query for them has the outcome of a call that differs in the symbols
alone. -/
lemma value_ask (d : Desk) (i : Inquiry) :
    ∃ (requested? : Option DataType) (reach? : Except InvalidRequest Reach)
      (explicit : Option Resolution), ∀ symbols, (i.ask d symbols).run.value =
      (d.outcome (reach?.map fun reach =>
        ⟨.several symbols requested?, reach, explicit⟩)).map (keep requested?) := by
  have hall : ∀ x : Except QueryError (List Slice), x = x.map (keep none) := by
    intro x
    cases x <;> rfl
  cases i with
  | range start finish explicit overrides =>
    exact ⟨none, .ok (.range start finish overrides), explicit, fun symbols => hall _⟩
  | span length explicit =>
    exact ⟨none, d.reach? (.span length), explicit, fun symbols =>
      (d.value_historySpan symbols length explicit).trans (hall _)⟩
  | periods count explicit =>
    exact ⟨none, .ok (.bars count d.now), explicit, fun symbols =>
      (d.value_historyPeriods symbols count explicit).trans (hall _)⟩
  | typed requested window explicit =>
    exact ⟨some requested, d.reach? window, explicit, fun symbols =>
      d.value_typedHistory symbols requested window explicit⟩

lemma keep_choose {slices : List Slice} (h : Slice.Tidy slices) (requested? : Option DataType)
    (p : Observation → Bool) :
    keep requested? (Slice.choose p slices) = Slice.choose p (keep requested? slices) := by
  cases requested? with
  | none => rfl
  | some requested => exact h.choose_comm _ _

lemma exists_mem_of_mem_keep {requested? : Option DataType} {slices : List Slice} {s : Slice}
    (hs : s ∈ keep requested? slices) {o : Observation} (ho : o ∈ s.data) :
    ∃ s' ∈ slices, o ∈ s'.data := by
  cases requested? with
  | none => exact ⟨s, hs, ho⟩
  | some requested =>
    obtain ⟨s', hs', -, hdata, -⟩ := Slice.mem_choose.mp hs
    rw [hdata] at ho
    exact ⟨s', hs', (List.mem_filter.mp ho).1⟩

/-- However a desk came about and whatever is asked of several symbols, canonical symbols and
placeholders of universes included: the answer is about these symbols, and for each of them it holds
exactly what the answer for that symbol alone is; if one of the two queries fails, so does the
other, with the same error. -/
theorem ask_singleton (d : Desk) (changes : List Change) (i : Inquiry) {symbols : List Symbol}
    (hsymbols : symbols.Nodup) :
    let answer (symbols : List Symbol) := (i.ask (d.blank.afterAll changes) symbols).run.value
    (∀ slices, answer symbols = .ok slices → ∀ s ∈ slices, ∀ o ∈ s.data, o.symbol ∈ symbols) ∧
      ∀ x ∈ symbols, answer [x] = (answer symbols).map (Slice.choose (·.symbol = x)) := by
  intro answer
  let desk := d.blank.afterAll changes
  obtain ⟨hcatalog, failure, harchive⟩ := Desk.consistent_afterAll d changes
  obtain ⟨requested?, reach?, explicit, hvalue⟩ := value_ask desk i
  have hanswer : ∀ symbols, answer symbols = _ := hvalue
  rcases desk.outcome_several requested? explicit harchive reach? with ⟨e, he⟩ | ⟨reach, hslices⟩
  · simp only [hanswer, he]
    refine ⟨fun slices hslices => ?_, fun _ _ => rfl⟩
    cases hslices
  · simp only [hanswer, hslices]
    constructor
    · rintro slices hslices s hs o ho
      cases hslices
      obtain ⟨s', hs', ho⟩ := exists_mem_of_mem_keep hs ho
      exact Desk.symbol_mem_of_mem_slicesFor hcatalog hs' ho
    · intro x hx
      rw [Desk.slicesFor_singleton hcatalog hsymbols hx]
      exact congrArg Except.ok (keep_choose (Archive.tidy_slices ..) requested? _)

/-! ### Two shares in one slice -/

/-- Another share in the United States. -/
def qqq : Symbol := ⟨"QQQ", .equity, "usa", false⟩

/-- A bar of trades in which nothing happens, complete at the last midnight. -/
def barAtMidnight (symbol : Symbol) : Observation :=
  .tradeBar ⟨symbol, .first, Desk.lastMidnight.now, .flat .zero, .zero⟩

/-- Of two shares whose bars come back in one slice, each has its own bar in the answer for it alone:
over a range, for a number of bars, and for data of one type. -/
theorem ask_singleton_of_shared_slice :
    let loaded : Change := .load .minute [barAtMidnight Planner.spy, barAtMidnight qqq]
    let desk := Desk.lastMidnight.blank.afterAll [loaded]
    let inquiries : List Inquiry := [
      .range .first desk.now (some .minute) .none,
      .periods 5 (some .minute),
      .typed .tradeBar (.periods 5) (some .minute)]
    let answer (i : Inquiry) (symbols : List Symbol) := (i.ask desk symbols).run.value
    [Planner.spy, qqq].Nodup ∧ qqq ∈ [Planner.spy, qqq] ∧
      ∀ i ∈ inquiries,
        answer i [Planner.spy, qqq] =
          .ok [⟨desk.now, [barAtMidnight Planner.spy, barAtMidnight qqq]⟩] ∧
        answer i [qqq] = (answer i [Planner.spy, qqq]).map (Slice.choose (·.symbol = qqq)) := by
  intro loaded desk inquiries answer
  have hboth : ∀ i ∈ inquiries, answer i [Planner.spy, qqq] =
      .ok [⟨desk.now, [barAtMidnight Planner.spy, barAtMidnight qqq]⟩] := by
    decide +kernel
  refine ⟨by decide, by decide, fun i hi => ⟨hboth i hi, ?_⟩⟩
  exact (ask_singleton Desk.lastMidnight [loaded] i (by decide)).2 qqq (by decide)

end Inquiry

end MarketHistory
