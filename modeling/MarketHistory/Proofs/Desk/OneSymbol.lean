import MarketHistory.Proofs.Desk.Separation
import MarketHistory.Proofs.Subscription.Serving

/-!
# One type of data of one symbol

Data of one type can be asked for in two ways: of one symbol, where it is an error if there are
none, and of several symbols. For a single symbol both work alike (`typedHistory_singleton`). Over
a range both come down to the log: what comes back is what was loaded for the symbol and fits its
best subscription, in the order of time (`historyOf_range_eq`).
-/

namespace MarketHistory

/-! ### The best subscription -/

/-- What comes of a subscription that serves a request is taken by the request. -/
lemma Resolver.accepts_of_takes {requested t t' : DataType} (h : takes requested t = true)
    (ht : t = .base ∨ t' = t) : requested.accepts t' = true := by
  simp only [takes, DataType.accepts, Bool.and_eq_true, Bool.or_eq_true, decide_eq_true_eq] at h ⊢
  rcases ht with rfl | rfl
  · exact .inl (h.1.elim id id)
  · exact h.1

namespace Planner

variable {symbol : Symbol} {reach : Reach} {explicit : Option Resolution}

/-- For a single symbol, several symbols make the request that the symbol makes by itself. -/
lemma requestsOf_each_singleton (p : Planner) (requested : DataType)
    (hcanonical : symbol.canonical = false)
    (hrefuses : reach.refuses explicit = false) :
    p.requestsOf ⟨.each [symbol] requested, reach, explicit⟩ =
      (p.resolver.resolve symbol requested explicit).value.head?.toList.map
        (p.requestFor (.one symbol requested) reach explicit symbol) := by
  simp only [requestsOf, requests_eq, hrefuses, Bool.false_eq_true, if_false]
  have hserving : p.resolver.serving (.each [symbol] requested) explicit =
      (p.resolver.resolve symbol requested explicit).value.head?.toList.map
        fun s => (symbol, s) := by
    simp [Resolver.serving, hcanonical]
  rw [hserving, List.map_map]
  cases reach <;> rfl

end Planner

namespace Desk

/-- A window cannot be told only because its span reaches back too far. -/
lemma exists_span_of_reach?_eq_error {d : Desk} {window : Window} {e : InvalidRequest}
    (h : d.reach? window = .error e) : ∃ length, e = .spanOutOfRange length := by
  cases window with
  | span length =>
    simp only [reach?, spanStart] at h
    cases hstart : d.now.sub? length with
    | some start =>
      rw [hstart] at h
      cases h
    | none =>
      rw [hstart] at h
      cases h
      exact ⟨length, rfl⟩
  | periods count => cases h
  | range start finish => cases h

/-- Why a query is refused that would be refused for any symbol. -/
def IsRefusal (e : QueryError) : Prop :=
  e = .invalidRequest .tickPeriods ∨ ∃ length, e = .invalidRequest (.spanOutOfRange length)

/-- A query for one symbol and one for several agree: they return the same observations, or there
are none of the type, or both are refused. -/
inductive Agree (one : Except QueryError (List Observation))
    (several : Except QueryError (List Slice)) : Prop where
  | found (slices : List Slice) (hone : one = .ok (slices.flatMap Slice.data))
      (hseveral : several = .ok slices)
  | missing (r : Resolver) (symbol : Symbol) (requested : DataType) (explicit : Option Resolution)
      (hone : one = .error (.invalidRequest (r.mismatch symbol requested explicit)))
      (hseveral : several = .ok [])
  | refused (e : QueryError) (he : IsRefusal e) (hone : one = .error e)
      (hseveral : several = .error e)

section Loaded

variable {d : Desk} (hcatalog : d.catalog.Filed)

include hcatalog

/-- Slices for one symbol hold nothing of another, so that there is nothing to leave out. -/
lemma project_slicesFor (clocks : ZoneClocks) (loads : List Load) (requested : DataType) (reach : Reach)
    (explicit : Option Resolution) (symbol : Symbol) :
    let slices := d.slicesFor clocks loads none (some requested) reach explicit [symbol]
    Slice.project slices symbol requested =
      (Slice.restrict slices requested).flatMap Slice.data := by
  intro slices
  rw [Slice.restrict_eq_choose, Slice.flatMap_data_choose, Slice.project]
  refine List.filter_congr fun o ho => ?_
  obtain ⟨s, hs, ho⟩ := List.mem_flatMap.mp ho
  have hsymbol : o.symbol = symbol :=
    List.mem_singleton.mp (symbol_mem_of_mem_slicesFor hcatalog hs ho)
  rw [decide_eq_true hsymbol, Bool.true_and]

variable {clocks : ZoneClocks} {loads : List Load} (harchive : d.archive = .loaded clocks loads none)
  (hconnected : d.connected = true)

include harchive hconnected

/-- At a desk that answers, the two queries for one symbol agree. -/
lemma agree {symbol : Symbol} (hcanonical : symbol.canonical = false) (requested : DataType)
    (window : Window) (explicit : Option Resolution) :
    Agree (d.historyOf symbol requested window explicit).run.value
      (d.typedHistory [symbol] requested window explicit).run.value := by
  have hfailure : d.archive.failure = none := congrArg Archive.failure harchive
  rw [value_historyOf, value_requestOf, value_typedHistory]
  cases hreach : d.reach? window with
  | error e =>
    obtain ⟨length, rfl⟩ := exists_span_of_reach?_eq_error hreach
    exact .refused _ (.inr ⟨length, rfl⟩) rfl rfl
  | ok reach =>
    simp only [Except.bind, Except.map, outcome, Planner.requestOne?]
    cases hrefuses : reach.refuses explicit with
    | true => exact .refused _ (.inl rfl) rfl rfl
    | false =>
      simp only [Bool.false_eq_true, if_false, value_historyOfRequests hconnected hfailure]
      have hrequests := d.planner.requestsOf_each_singleton requested hcanonical hrefuses
      cases hfirst : (d.planner.resolver.resolve symbol requested explicit).value.head? with
      | none =>
        rw [hfirst] at hrequests
        refine .missing d.resolver symbol requested explicit rfl ?_
        rw [hrequests]
        rfl
      | some s =>
        rw [hfirst] at hrequests
        refine .found _ ?_ rfl
        rw [hrequests, harchive]
        have hslices := project_slicesFor hcatalog clocks loads requested reach explicit symbol
        simp only [slicesFor, Scope.several] at hslices
        rw [hrequests] at hslices
        exact congrArg Except.ok hslices

end Loaded

/-- An archive that does not fail was loaded with the observations. -/
lemma Consistent.archive_eq {d : Desk} {loads : List Load} (h : d.Consistent loads)
    (hfailure : d.archive.failure = none) : d.archive = .loaded d.archive.clocks loads none := by
  obtain ⟨failure, harchive⟩ := h.archive
  have hnone : failure = none := by
    rw [harchive] at hfailure
    exact hfailure
  rwa [hnone] at harchive

/-- However a desk came about whose queries are answered, and whatever type of data of a symbol that
is not canonical is asked for: what the query for the symbol returns, slice by slice, is what the
query for several symbols returns for this one; where the first finds no data of the type, the
second returns nothing; and the second fails exactly where the first is refused, with the same
error. -/
theorem typedHistory_singleton (d : Desk) (changes : List Change)
    (hconnected : (d.blank.afterAll changes).connected = true)
    (hfailure : (d.blank.afterAll changes).archive.failure = none) {symbol : Symbol}
    (hcanonical : symbol.canonical = false) (requested : DataType) (window : Window)
    (explicit : Option Resolution) :
    let desk := d.blank.afterAll changes
    let one := (desk.historyOf symbol requested window explicit).run.value
    let several := (desk.typedHistory [symbol] requested window explicit).run.value
    (∀ observations, one = .ok observations →
      ∃ slices, several = .ok slices ∧ slices.flatMap Slice.data = observations) ∧
    (∀ symbol' requested' actual explicit', one = .error (.invalidRequest
      (.typeMismatch symbol' requested' actual explicit')) → several = .ok []) ∧
    ∀ e, several = .error e ↔ one = .error e ∧ IsRefusal e := by
  intro desk one several
  have hdesk := consistent_afterAll d changes
  have hagree : Agree one several :=
    agree hdesk.catalog (hdesk.archive_eq hfailure) hconnected hcanonical requested window explicit
  cases hagree with
  | found slices hone hseveral =>
    rw [hone, hseveral]
    refine ⟨fun observations h => ⟨slices, rfl, Except.ok.inj h⟩, fun _ _ _ _ h => ?_, fun e => ?_⟩
    · cases h
    · exact iff_of_false (fun h => by cases h) fun h => by cases h.1
  | missing r symbol requested explicit hone hseveral =>
    rw [hone, hseveral]
    refine ⟨fun observations h => ?_, fun _ _ _ _ _ => rfl, fun e => ?_⟩
    · cases h
    · refine iff_of_false (fun h => by cases h) ?_
      rintro ⟨he, hrefusal⟩
      cases he
      rcases hrefusal with h | ⟨length, h⟩ <;> cases h
  | refused e he hone hseveral =>
    rw [hone, hseveral]
    refine ⟨fun observations h => ?_, fun _ _ _ _ h => ?_, fun e' => ?_⟩
    · cases h
    · cases h
      rcases he with h | ⟨length, h⟩ <;> cases h
    · constructor
      · intro h
        cases h
        exact ⟨rfl, he⟩
      · rintro ⟨h, -⟩
        cases h
        rfl

/-- A bar of trades that is complete at the present comes back either way. -/
theorem typedHistory_singleton_of_bar :
    let changes : List Change := [.load .minute [barOfLastDay 0, barOfLastDay 60]]
    let desk := lastMidnight.blank.afterAll changes
    let window : Window := .range .first desk.now
    let several := (desk.typedHistory [Planner.spy] .tradeBar window (some .minute)).run.value
    desk.connected = true ∧ desk.archive.failure = none ∧ Planner.spy.canonical = false ∧
      (desk.historyOf Planner.spy .tradeBar window (some .minute)).run.value =
        .ok [barOfLastDay 0] ∧
      ∃ slices, several = .ok slices ∧ slices.flatMap Slice.data = [barOfLastDay 0] := by
  intro changes desk window several
  have hone : (desk.historyOf Planner.spy .tradeBar window (some .minute)).run.value =
      .ok [barOfLastDay 0] := by
    decide +kernel
  exact ⟨rfl, rfl, rfl, hone,
    (typedHistory_singleton lastMidnight changes rfl rfl rfl .tradeBar window (some .minute)).1
      _ hone⟩

end Desk

/-! ### The log as one subscription sees it -/

/-- What a subscription to a symbol gives over a range of time, at the explicit resolution or else
at its own: what was loaded for the symbol at that resolution, is of the type of data and the tick
type of the subscription, is complete within the range and by the present, and begins in the regular
session, as far as that can be told, unless the subscription goes beyond it or data are daily. -/
structure Subscription.Gives (s : Subscription) (d : Desk) (symbol : Symbol)
    (explicit : Option Resolution) (start finish : Instant) (resolution : Resolution)
    (o : Observation) : Prop where
  about      : o.symbol = symbol
  resolution : resolution = explicit.getD s.resolution
  dataType   : s.dataType = .base ∨ o.dataType = s.dataType
  tickType   : o.tickType = s.tickType
  after      : start < o.endTime
  upTo       : o.endTime ≤ finish
  past       : o.endTime ≤ d.now
  session    : s.extendedHours = false → explicit.getD s.resolution < .daily →
    (d.resolver.marketHours symbol).hours.isOpen d.archive.clocks o.time = true

/-- A subscription gives what the clipped request for it asks for. -/
lemma Subscription.wants_iff_gives {s : Subscription} (d : Desk) {symbol : Symbol}
    (hsymbol : s.symbol = symbol) (requested : DataType) (explicit : Option Resolution)
    (start finish : Instant) (resolution : Resolution) (o : Observation) :
    ((d.planner.requestFor (.one symbol requested) (.range start finish .none) explicit symbol
        s).clip d.now).Wants d.archive.clocks resolution o ↔
      s.Gives d symbol explicit start finish resolution o := by
  rw [Request.wants_clip_iff]
  constructor
  · rintro ⟨h, hpast⟩
    exact ⟨h.symbol.trans hsymbol, h.resolution, h.dataType, h.tickType, h.after, h.upTo, hpast,
      fun hextended hintraday => h.session hintraday hextended⟩
  · intro h
    exact ⟨⟨h.about.trans hsymbol.symm, h.resolution, h.dataType, h.tickType, h.after, h.upTo,
      fun hintraday hextended => h.session hextended hintraday⟩, h.past⟩

instance (s : Subscription) (d : Desk) (symbol : Symbol) (explicit : Option Resolution)
    (start finish : Instant) (resolution : Resolution) (o : Observation) :
    Decidable (s.Gives d symbol explicit start finish resolution o) :=
  decidable_of_iff
    (o.symbol = symbol ∧ resolution = explicit.getD s.resolution ∧
      (s.dataType = .base ∨ o.dataType = s.dataType) ∧ o.tickType = s.tickType ∧
      start < o.endTime ∧ o.endTime ≤ finish ∧ o.endTime ≤ d.now ∧
      (s.extendedHours = false → explicit.getD s.resolution < .daily →
        (d.resolver.marketHours symbol).hours.isOpen d.archive.clocks o.time = true))
    ⟨fun ⟨h₁, h₂, h₃, h₄, h₅, h₆, h₇, h₈⟩ => ⟨h₁, h₂, h₃, h₄, h₅, h₆, h₇, h₈⟩,
      fun ⟨h₁, h₂, h₃, h₄, h₅, h₆, h₇, h₈⟩ => ⟨h₁, h₂, h₃, h₄, h₅, h₆, h₇, h₈⟩⟩

namespace Desk

/-- What a subscription gives over a range, in the order of time; what is complete at one time
stays in the order of loading. -/
def given (d : Desk) (log : List (Resolution × Observation)) (symbol : Symbol) (s : Subscription)
    (explicit : Option Resolution) (start finish : Instant) : List Observation :=
  Observation.byEndTime
    ((log.filter fun e => s.Gives d symbol explicit start finish e.1 e.2).map (·.2))

lemma delivery_singleton {d : Desk} {r : Request}
    (h : d.securities.isUniverse r.symbol = false) : d.delivery [r] = [r.clip d.now] := by
  rw [delivery, List.filter_cons_of_pos (by rw [h]; rfl), List.filter_nil, List.map_singleton]

lemma gives_of_mem_given {d : Desk} {log : List (Resolution × Observation)} {symbol : Symbol}
    {s : Subscription} {explicit : Option Resolution} {start finish : Instant} {o : Observation}
    (ho : o ∈ d.given log symbol s explicit start finish) :
    ∃ resolution, s.Gives d symbol explicit start finish resolution o := by
  obtain ⟨e, he, rfl⟩ := List.mem_map.mp ((List.mergeSort_perm _ _).mem_iff.mp ho)
  exact ⟨e.1, of_decide_eq_true (List.mem_filter.mp he).2⟩

/-- However a desk came about whose queries are answered: for a symbol that is not the placeholder
of a universe and has a subscription of the requested type, a query over a range returns all that
the best of its subscriptions gives over the range, as often as it was loaded, and nothing else. -/
theorem historyOf_range_eq (d : Desk) (changes : List Change)
    (hconnected : (d.blank.afterAll changes).connected = true)
    (hfailure : (d.blank.afterAll changes).archive.failure = none) {symbol : Symbol}
    (huniverse : (d.blank.afterAll changes).securities.isUniverse symbol = false)
    {requested : DataType} {explicit : Option Resolution} {s : Subscription}
    (hfirst : ((d.blank.afterAll changes).resolver.resolve symbol requested
      explicit).value.head? = some s) (start finish : Instant) :
    let desk := d.blank.afterAll changes
    (desk.historyOf symbol requested (.range start finish) explicit).run.value =
      .ok (desk.given (Load.log (changes.filterMap Change.load?)) symbol s explicit start
        finish) := by
  intro desk
  obtain ⟨hcatalog, _⟩ := consistent_afterAll d changes
  have harchive := (consistent_afterAll d changes).archive_eq hfailure
  have hserves : s ∈ (desk.resolver.resolve symbol requested explicit).value :=
    List.mem_of_head? hfirst
  have hsymbol : s.symbol = symbol := Resolver.symbol_of_mem_resolve hcatalog hserves
  let r := desk.planner.requestFor (.one symbol requested) (.range start finish .none) explicit
    symbol s
  have hrequest : desk.planner.requestOne? symbol requested (.range start finish .none) explicit =
      .ok r := by
    simp only [Planner.requestOne?, Reach.refuses, Bool.false_eq_true, if_false]
    rw [show desk.planner.resolver = desk.resolver from rfl, hfirst]
  have hdelivery : desk.delivery [r] = [r.clip desk.now] := delivery_singleton <| by
    rw [show r.symbol = symbol from hsymbol]
    exact huniverse
  have hgiven : (desk.archive.slices [r.clip desk.now]).flatMap Slice.data =
      desk.given (Load.log (changes.filterMap Change.load?)) symbol s explicit start finish := by
    rw [harchive, Archive.flatMap_data_slices_loaded, List.flatMap_singleton, given, Request.pick]
    refine congrArg Observation.byEndTime (congrArg (List.map Prod.snd) ?_)
    refine List.filter_congr fun e _ => decide_eq_decide.mpr ?_
    exact Subscription.wants_iff_gives desk hsymbol requested explicit start finish e.1 e.2
  have hproject : Slice.project (desk.archive.slices [r.clip desk.now]) symbol requested =
      desk.given (Load.log (changes.filterMap Change.load?)) symbol s explicit start finish := by
    rw [Slice.project, hgiven]
    -- nothing is left out: all that is given is about the symbol and of a type that it takes
    refine List.filter_eq_self.mpr fun o ho => ?_
    obtain ⟨resolution, hgives⟩ := gives_of_mem_given ho
    rw [decide_eq_true hgives.about, Bool.true_and]
    exact Resolver.accepts_of_takes (Resolver.takes_of_mem_resolve hserves) hgives.dataType
  rw [value_historyOf, value_requestOf]
  simp only [reach?, Except.bind, hrequest, Except.mapError]
  rw [value_historyOfRequests hconnected hfailure, hdelivery]
  exact congrArg Except.ok hproject

/-- Of two bars of trades, one of them complete after the present, a subscription to minutes gives
the other. -/
theorem historyOf_range_eq_of_minutes :
    let minutes : Subscription := .of Planner.spy .minute .trade .utc
    let bars : List Observation := [barOfLastDay 60, barOfLastDay 0]
    let desk := lastMidnight.blank.afterAll [.subscribe minutes, .load .minute bars]
    let finish := (barOfLastDay 60).endTime
    let answer := (desk.historyOf Planner.spy .tradeBar (.range .first finish) none).run.value
    desk.connected = true ∧ desk.archive.failure = none ∧
      desk.securities.isUniverse Planner.spy = false ∧
      (desk.resolver.resolve Planner.spy .tradeBar none).value.head? = some minutes ∧
      answer = .ok [barOfLastDay 0] ∧
      answer = .ok (desk.given (Load.log [⟨.minute, bars⟩]) Planner.spy minutes none .first finish) :=
  ⟨rfl, rfl, by decide +kernel, by decide +kernel, by decide +kernel,
    historyOf_range_eq lastMidnight _ rfl rfl (by decide +kernel) (by decide +kernel) _ _⟩

end Desk

end MarketHistory
