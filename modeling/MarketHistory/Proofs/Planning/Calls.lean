import MarketHistory.Request.Plan
import Mathlib.Tactic.Lemma

/-!
# Calls of a planner

A planner is called for data of all types or of one, over a range of time or a number of bars. All
these calls work alike: they find the subscriptions that serve them (`Resolver.serving`) and make
one request for each (`Planner.requests_eq`).
-/

namespace MarketHistory

/-- Which data are asked for. -/
inductive Scope where
  /-- Data of all types. -/
  | all (symbols : List Symbol)
  /-- Data of one type of one symbol; it is an error if there are none. -/
  | one (symbol : Symbol) (requested : DataType)
  /-- Data of one type; symbols without such data are left out. -/
  | each (symbols : List Symbol) (requested : DataType)
deriving DecidableEq

/-- How far the requests of a call reach. Only requests for data of all types over a range take
overrides. -/
inductive Reach where
  | range (start finish : Instant) (overrides : Overrides)
  | bars (periods : Nat) (finish : Instant)
deriving DecidableEq

/-- The end of the requests. -/
def Reach.finish : Reach → Instant
  | range _ finish _ => finish
  | bars _ finish    => finish

/-- Whether a call is refused: ticks cannot be counted as bars. -/
def Reach.refuses (reach : Reach) (explicit : Option Resolution) : Bool :=
  match reach with
  | range .. => false
  | bars ..  => explicit = some .tick

lemma Reach.refuses_some (reach : Reach) {resolution : Resolution} (h : resolution ≠ .tick) :
    reach.refuses (some resolution) = false := by
  cases reach with
  | range start finish overrides => rfl
  | bars periods finish => exact decide_eq_false fun htick => h (Option.some.inj htick)

/-- The subscriptions that serve a call, each with the symbol for which it was found. -/
def Resolver.serving (r : Resolver) (scope : Scope) (explicit : Option Resolution) :
    List (Symbol × Subscription) :=
  match scope with
  | .all symbols            =>
    (symbols.filter (!·.canonical)).flatMap fun symbol =>
      (r.resolve symbol .base explicit).value.map fun s => (symbol, s)
  | .one symbol requested   =>
    (r.resolve symbol requested explicit).value.head?.toList.map fun s => (symbol, s)
  | .each symbols requested =>
    (symbols.filter (!·.canonical)).flatMap fun symbol =>
      (r.resolve symbol requested explicit).value.head?.toList.map fun s => (symbol, s)

/-- A subscription that serves a call is resolved for its symbol. -/
lemma Resolver.exists_mem_resolve_of_mem_serving {r : Resolver} {scope : Scope}
    {explicit : Option Resolution} {e : Symbol × Subscription}
    (he : e ∈ r.serving scope explicit) :
    ∃ requested, e.2 ∈ (r.resolve e.1 requested explicit).value := by
  cases scope with
  | all symbols =>
    obtain ⟨symbol, -, he⟩ := List.mem_flatMap.mp he
    obtain ⟨s, hs, rfl⟩ := List.mem_map.mp he
    exact ⟨.base, hs⟩
  | one symbol requested =>
    obtain ⟨s, hs, rfl⟩ := List.mem_map.mp he
    exact ⟨requested, List.mem_of_head? (Option.mem_toList.mp hs)⟩
  | each symbols requested =>
    obtain ⟨symbol, -, he⟩ := List.mem_flatMap.mp he
    obtain ⟨s, hs, rfl⟩ := List.mem_map.mp he
    exact ⟨requested, List.mem_of_head? (Option.mem_toList.mp hs)⟩

/-- A single symbol that is not canonical is served by its subscriptions. -/
lemma Resolver.serving_all_singleton (r : Resolver) {symbol : Symbol}
    (hcanonical : symbol.canonical = false) (explicit : Option Resolution) :
    r.serving (.all [symbol]) explicit =
      (r.resolve symbol .base explicit).value.map fun s => (symbol, s) := by
  simp [serving, hcanonical]

/-- The symbol has no data of the requested type; the data of its best subscription are told. -/
def Resolver.mismatch (r : Resolver) (symbol : Symbol) (requested : DataType)
    (explicit : Option Resolution) : InvalidRequest :=
  .typeMismatch symbol requested ((r.resolve symbol .base none).value.head?.map (·.dataType))
    explicit

lemma Resolver.value_resolveOne (r : Resolver) (symbol : Symbol) (requested : DataType)
    (explicit : Option Resolution) :
    (r.resolveOne symbol requested explicit).value =
      match (r.resolve symbol requested explicit).value.head? with
      | some s => .ok s
      | none   => .error (r.mismatch symbol requested explicit) := by
  simp only [resolveOne]
  rw [Traced.value_bind]
  show _ = match (r.resolveFirst? symbol requested explicit).value with
    | some s => Except.ok s
    | none   => .error (r.mismatch symbol requested explicit)
  cases (r.resolveFirst? symbol requested explicit).value <;> rfl

namespace Planner

/-- The requests of a plan; none if there is no plan. -/
def planned : Except InvalidRequest Plan → List Request
  | .ok plan => plan.all.value
  | .error _ => []

/-- The requests that a call makes; a call that is refused makes none. -/
def requests (p : Planner) (scope : Scope) (reach : Reach) (explicit : Option Resolution) :
    List Request :=
  match scope, reach with
  | .all symbols, .range start finish overrides    =>
    (p.range symbols start finish explicit overrides).all.value
  | .all symbols, .bars periods finish             =>
    planned (p.bars symbols periods explicit finish)
  | .one symbol requested, .range start finish _   =>
    (p.typedRange symbol requested start finish explicit).value.toOption.toList
  | .one symbol requested, .bars periods finish    =>
    (p.typedBars symbol requested periods explicit finish).value.toOption.toList
  | .each symbols requested, .range start finish _ =>
    (p.typedRanges symbols requested start finish explicit).all.value
  | .each symbols requested, .bars periods finish  =>
    planned (p.typedBarsPlan symbols requested periods explicit finish)

/-! ### The request for a subscription -/

/-- The resolution that a call gives to its requests for a symbol in place of those of
subscriptions. -/
def imposed? (p : Planner) (scope : Scope) (reach : Reach) (explicit : Option Resolution)
    (symbol : Symbol) : Option Resolution :=
  match scope, reach with
  | .all _, .bars .. => some (p.resolver.effectiveResolution symbol explicit)
  | _, _             => explicit

/-- The resolution of the request for a subscription. -/
def resolutionFor (p : Planner) (scope : Scope) (reach : Reach) (explicit : Option Resolution)
    (symbol : Symbol) (s : Subscription) : Resolution :=
  (p.imposed? scope reach explicit symbol).getD s.resolution

/-- The time zone in which the calendar counts bars: for data of all types that of the best
subscription of the symbol. -/
def countingZone (p : Planner) (scope : Scope) (explicit : Option Resolution) (symbol : Symbol)
    (s : Subscription) : TimeZone :=
  match scope with
  | .all _ => ((p.resolver.resolve symbol .base explicit).value.head?.getD s).dataTimeZone
  | _      => s.dataTimeZone

/-- The start of the request for a subscription. -/
def startFor (p : Planner) (scope : Scope) (reach : Reach) (explicit : Option Resolution)
    (symbol : Symbol) (s : Subscription) : Instant :=
  match reach with
  | .range start _ _     => start
  | .bars periods finish =>
    (p.startOfBars symbol periods (p.resolver.effectiveResolution symbol explicit)
      (p.countingZone scope explicit symbol s) finish).value

/-- The overrides that a call takes. -/
def overridesFor (scope : Scope) (reach : Reach) : Overrides :=
  match scope, reach with
  | .all _, .range _ _ overrides => overrides
  | _, _                         => .none

/-- The request for a subscription that serves a call. -/
def requestFor (p : Planner) (scope : Scope) (reach : Reach) (explicit : Option Resolution)
    (symbol : Symbol) (s : Subscription) : Request :=
  p.request s (p.startFor scope reach explicit symbol s) reach.finish (p.hours symbol)
    (p.imposed? scope reach explicit symbol) (p.resolver.effectiveResolution symbol explicit)
    (overridesFor scope reach)

/-- The request for one type of data of one symbol, or why there is none. -/
def requestOne? (p : Planner) (symbol : Symbol) (requested : DataType) (reach : Reach)
    (explicit : Option Resolution) : Except InvalidRequest Request :=
  if reach.refuses explicit then .error .tickPeriods
  else match (p.resolver.resolve symbol requested explicit).value.head? with
    | some s => .ok (p.requestFor (.one symbol requested) reach explicit symbol s)
    | none   => .error (p.resolver.mismatch symbol requested explicit)

/-! ### One request for each subscription -/

lemma value_all (plan : Plan) : plan.all.value = plan.flatMap (·.value) := by
  induction plan with
  | nil => rfl
  | cons step plan ih =>
    rw [List.flatMap_cons, ← ih]
    rfl

/-- What is planned depends on the requests of the plan only. -/
lemma planned_eq_getD (plan? : Except InvalidRequest Plan) :
    planned plan? = (plan?.map (·.all.value)).toOption.getD [] := by
  cases plan? <;> rfl

lemma value_primary? (p : Planner) (symbol : Symbol) (requested : DataType)
    (explicit : Option Resolution) :
    (p.primary? symbol requested explicit).value =
      (p.resolver.resolve symbol requested explicit).value.head? := by
  simp only [primary?]
  rw [Traced.value_bind]
  split <;> rfl

section Values

variable (p : Planner) (symbol : Symbol) (requested : DataType) (explicit : Option Resolution)

lemma value_symbolBars (symbols : List Symbol) (periods : Nat) (finish : Instant) :
    (p.symbolBars symbol periods explicit finish).value =
      (p.resolver.resolve symbol .base explicit).value.map
        (p.requestFor (.all symbols) (.bars periods finish) explicit symbol) := by
  simp only [symbolBars]
  rw [Traced.value_bind]
  cases h : (p.resolver.resolve symbol .base explicit).value with
  | nil => rfl
  | cons first rest =>
    unfold requestFor startFor countingZone
    dsimp only
    rw [h]
    rfl

lemma value_typedRange (start finish : Instant) (overrides : Overrides) :
    (p.typedRange symbol requested start finish explicit).value =
      p.requestOne? symbol requested (.range start finish overrides) explicit := by
  simp only [typedRange, requestOne?, Reach.refuses, Bool.false_eq_true, if_false]
  rw [Traced.value_bind, Resolver.value_resolveOne]
  cases (p.resolver.resolve symbol requested explicit).value.head? <;> rfl

lemma value_typedBars (periods : Nat) (finish : Instant) :
    (p.typedBars symbol requested periods explicit finish).value =
      p.requestOne? symbol requested (.bars periods finish) explicit := by
  simp only [typedBars, requestOne?, Reach.refuses, decide_eq_true_eq]
  split
  · rfl
  · rw [Traced.value_bind, Resolver.value_resolveOne]
    cases (p.resolver.resolve symbol requested explicit).value.head? <;> rfl

/-- The request for one type of data of one symbol is what its call makes. -/
lemma requests_one (reach : Reach) :
    p.requests (.one symbol requested) reach explicit =
      (p.requestOne? symbol requested reach explicit).toOption.toList := by
  cases reach with
  | range start finish overrides =>
    simp only [requests, value_typedRange p symbol requested explicit start finish overrides]
  | bars periods finish => simp only [requests, value_typedBars]

lemma toList_requestOne? {reach : Reach} (hrefuses : reach.refuses explicit = false) :
    (p.requestOne? symbol requested reach explicit).toOption.toList =
      (p.resolver.serving (.one symbol requested) explicit).map fun e =>
        p.requestFor (.one symbol requested) reach explicit e.1 e.2 := by
  simp only [requestOne?, hrefuses, Bool.false_eq_true, if_false, Resolver.serving]
  cases (p.resolver.resolve symbol requested explicit).value.head? <;> rfl

end Values

/-- A call over a range makes one request for each subscription that serves it. -/
lemma requests_range (p : Planner) (scope : Scope) (start finish : Instant)
    (overrides : Overrides) (explicit : Option Resolution) :
    p.requests scope (.range start finish overrides) explicit =
      (p.resolver.serving scope explicit).map fun e =>
        p.requestFor scope (.range start finish overrides) explicit e.1 e.2 := by
  cases scope with
  | all symbols =>
    simp only [requests, range, value_all, Resolver.serving, List.flatMap_map, List.map_flatMap,
      List.map_map]
    rfl
  | one symbol requested => rw [requests_one, toList_requestOne? _ _ _ _ rfl]
  | each symbols requested =>
    simp only [requests, typedRanges, value_all, Resolver.serving, List.flatMap_map,
      List.map_flatMap, List.map_map, Traced.value_bind, value_primary?]
    congr 1
    funext symbol
    cases (p.resolver.resolve symbol requested explicit).value.head? <;> rfl

/-- A call for bars makes one request for each subscription that serves it, unless it is refused. -/
lemma requests_bars (p : Planner) (scope : Scope) (periods : Nat) (finish : Instant)
    (explicit : Option Resolution) :
    p.requests scope (.bars periods finish) explicit =
      if explicit = some .tick then []
      else (p.resolver.serving scope explicit).map fun e =>
        p.requestFor scope (.bars periods finish) explicit e.1 e.2 := by
  by_cases htick : explicit = some .tick
  · rw [if_pos htick, htick]
    cases scope <;> rfl
  rw [if_neg htick]
  cases scope with
  | all symbols =>
    simp only [requests, bars, if_neg htick, planned, value_all,
      Resolver.serving, List.flatMap_map, List.map_flatMap, List.map_map]
    congr 1
    funext symbol
    rw [value_symbolBars]
    rfl
  | one symbol requested =>
    have hrefuses : (Reach.bars periods finish).refuses explicit = false := decide_eq_false htick
    rw [requests_one, toList_requestOne? _ _ _ _ hrefuses]
  | each symbols requested =>
    simp only [requests, typedBarsPlan, if_neg htick, planned, value_all,
      Resolver.serving, List.flatMap_map, List.map_flatMap,
      List.map_map, Traced.value_bind, value_primary?]
    congr 1
    funext symbol
    cases (p.resolver.resolve symbol requested explicit).value.head? <;> rfl

/-- A call makes one request for each subscription that serves it, unless it is refused. -/
lemma requests_eq (p : Planner) (scope : Scope) (reach : Reach) (explicit : Option Resolution) :
    p.requests scope reach explicit =
      if reach.refuses explicit then []
      else (p.resolver.serving scope explicit).map fun e =>
        p.requestFor scope reach explicit e.1 e.2 := by
  cases reach with
  | range start finish overrides => exact requests_range ..
  | bars periods finish =>
    rw [requests_bars]
    simp only [Reach.refuses, decide_eq_true_eq]

lemma exists_of_mem_requests {p : Planner} {scope : Scope} {reach : Reach}
    {explicit : Option Resolution} {r : Request} (hr : r ∈ p.requests scope reach explicit) :
    ∃ e ∈ p.resolver.serving scope explicit,
      r = p.requestFor scope reach explicit e.1 e.2 := by
  rw [requests_eq] at hr
  split at hr
  · cases hr
  · obtain ⟨e, he, rfl⟩ := List.mem_map.mp hr
    exact ⟨e, he, rfl⟩

/-- For a single symbol there is a request for each of its subscriptions. -/
lemma requests_all_singleton (p : Planner) {symbol : Symbol} (hcanonical : symbol.canonical = false)
    {reach : Reach} {explicit : Option Resolution} (hrefuses : reach.refuses explicit = false) :
    p.requests (.all [symbol]) reach explicit =
      (p.resolver.resolve symbol .base explicit).value.map
        (p.requestFor (.all [symbol]) reach explicit symbol) := by
  rw [requests_eq, if_neg (Bool.eq_false_iff.mp hrefuses),
    p.resolver.serving_all_singleton hcanonical, List.map_map]
  rfl

/-- The requests for a single symbol are for the tick types of its subscriptions. -/
lemma map_tickType_requests_all_singleton (p : Planner) {symbol : Symbol}
    (hcanonical : symbol.canonical = false) {reach : Reach} {explicit : Option Resolution}
    (hrefuses : reach.refuses explicit = false) :
    (p.requests (.all [symbol]) reach explicit).map (·.tickType) =
      (p.resolver.resolve symbol .base explicit).value.map (·.tickType) := by
  rw [p.requests_all_singleton hcanonical hrefuses, List.map_map]
  rfl

/-- A canonical symbol is left out. -/
lemma requests_all_of_canonical (p : Planner) {symbol : Symbol}
    (hcanonical : symbol.canonical = true) (reach : Reach) (explicit : Option Resolution) :
    p.requests (.all [symbol]) reach explicit = [] := by
  have hserving : p.resolver.serving (.all [symbol]) explicit = [] := by
    simp [Resolver.serving, hcanonical]
  rw [requests_eq, hserving, List.map_nil, ite_self]

/-! ### Symbols and times of examples -/

/-- A share in the United States. -/
def spy : Symbol := ⟨"SPY", .equity, "usa", false⟩

/-- Four in the afternoon of 1 March 2024. -/
def afternoon : Instant :=
  ⟨(Date.ofNumbers? 2024 3 1).getD .first, (TimeOfDay.ofNumbers? 57600 0).getD .midnight⟩

end Planner

end MarketHistory
