import MarketHistory.Proofs.Desk.Foresight
import MarketHistory.Proofs.Desk.Outcome

/-!
# Refused questions

A question is refused before anything reaches the archive: because its span reaches back before the
first instant, because ticks would be counted as bars, because bars of trades are not made of ticks,
or because a single symbol has no data of the type (`Desk.refusal?`). Any other question hands over
one batch if queries reach the archive, and fails only if they do not or if the archive does
(`answer_refused_iff`).
-/

namespace MarketHistory

/-! ### Why questions are refused -/

/-- Why no data can be asked for over a window: its span reaches back before the first instant, or
ticks would be counted as bars. -/
def Window.refusal? (now : Instant) (explicit : Option Resolution) :
    Window → Option InvalidRequest
  | span length => if now.sub? length = none then some (.spanOutOfRange length) else none
  | periods _   => if explicit = some .tick then some .tickPeriods else none
  | range _ _   => none

/-- Why a request for one type of data of a symbol is refused: there are none. -/
def Resolver.mismatch? (r : Resolver) (symbol : Symbol) (requested : DataType)
    (explicit : Option Resolution) : Option InvalidRequest :=
  if (r.resolve symbol requested explicit).value = [] then
    some (r.mismatch symbol requested explicit)
  else none

/-- Whether the question is about last known prices, which are looked for twice. -/
def Question.isLatest : Question → Bool
  | lastPrices _ | lastPrice _ => true
  | _                          => false

namespace Desk

/-- Why a question is refused. That bars of trades are not made of ticks comes before what is wrong
with the window; what is wrong with the window comes before that a symbol has no data of the
type. -/
def refusal? (d : Desk) : Question → Option InvalidRequest
  | .span _ length explicit       => (Window.span length).refusal? d.now explicit
  | .periods _ count explicit     => (Window.periods count).refusal? d.now explicit
  | .typed _ _ window explicit    => window.refusal? d.now explicit
  | .ofType symbol requested window explicit =>
    (window.refusal? d.now explicit).or (d.resolver.mismatch? symbol requested explicit)
  | .tradeBars symbol window explicit =>
    let resolution := d.resolver.effectiveResolution symbol explicit
    if resolution = .tick then some .tickTradeBars
    else window.refusal? d.now (some resolution)
  | .warmUp                       =>
    match d.warmUp.spec with
    | some (.bars count explicit)  => (Window.periods count).refusal? d.now explicit
    | some (.span length explicit) => (Window.span length).refusal? d.now explicit
    | none                         => none
  | _                             => none

/-- Why there is nothing to make requests of. Symbols without data are left out of several. -/
def missing? (d : Desk) (scope : Scope) (explicit : Option Resolution) : Option InvalidRequest :=
  match scope with
  | .one symbol requested => d.resolver.mismatch? symbol requested explicit
  | _                     => none

/-- Why the planner does not accept a call, or why there is none. -/
def refusalOf (d : Desk) : Except InvalidRequest Call → Option InvalidRequest
  | .error e => some e
  | .ok call =>
    if call.reach.refuses call.explicit then some .tickPeriods
    else d.missing? call.scope call.explicit

variable {d : Desk}

/-! ### The call for a question -/

/-- A window is refused before it is seen whether there are data. -/
lemma refusalOf_reach? (scope : Scope) (window : Window) (explicit : Option Resolution) :
    d.refusalOf ((d.reach? window).map fun reach => ⟨scope, reach, explicit⟩) =
      (window.refusal? d.now explicit).or (d.missing? scope explicit) := by
  cases window with
  | span length =>
    simp only [reach?, spanStart, Window.refusal?]
    cases d.now.sub? length <;> rfl
  | periods count =>
    simp only [reach?, Except.map, refusalOf, Reach.refuses, Window.refusal?, decide_eq_true_eq]
    split <;> rfl
  | range start finish => rfl

lemma missing?_of_isOne_eq_false {scope : Scope} (h : scope.isOne = false)
    (explicit : Option Resolution) : d.missing? scope explicit = none := by
  cases scope with
  | all symbols => rfl
  | one symbol requested => cases h
  | each symbols requested => rfl

/-- For several symbols only the window can be refused. -/
lemma refusalOf_reach?_several (scope : Scope) (h : scope.isOne = false) (window : Window)
    (explicit : Option Resolution) :
    d.refusalOf ((d.reach? window).map fun reach => ⟨scope, reach, explicit⟩) =
      window.refusal? d.now explicit := by
  rw [refusalOf_reach?, missing?_of_isOne_eq_false h, Option.or_none]

lemma refusalOf_barCall? (symbol : Symbol) (window : Window) (explicit : Option Resolution) :
    d.refusalOf (d.barCall? symbol window explicit) =
      d.refusal? (.tradeBars symbol window explicit) := by
  simp only [barCall?, refusal?, Resolution.isTick, decide_eq_true_eq]
  split
  · rfl
  next htick =>
    have hsome : some (d.resolver.effectiveResolution symbol explicit) ≠ some .tick :=
      fun h => htick (Option.some.inj h)
    cases window with
    | span length => exact refusalOf_reach?_several (.all [symbol]) rfl (.span length) _
    | periods count =>
      simp only [barReach?, Planner.startForPeriods, Window.refusal?, if_neg hsome]
      rfl
    | range start finish => rfl

lemma refusalOf_warmUpCall? : d.refusalOf d.warmUpCall? = d.refusal? .warmUp := by
  simp only [refusal?, warmUpCall?]
  cases d.warmUp.spec with
  | none => rfl
  | some spec =>
    cases spec with
    | bars count explicit =>
      exact refusalOf_reach?_several (.all d.knownSymbols) rfl (.periods count) explicit
    | span length explicit => exact refusalOf_reach?_several _ rfl ..

/-- A question is refused for the reason for which its call is. -/
lemma refusalOf_call? {q : Question} {c : Except InvalidRequest Call} (h : d.call? q = some c) :
    d.refusalOf c = d.refusal? q := by
  cases q with
  | requests requests => cases h
  | span symbols length explicit =>
    cases h
    exact refusalOf_reach?_several _ rfl ..
  | periods symbols count explicit =>
    cases h
    exact refusalOf_reach?_several (.all symbols) rfl (.periods count) explicit
  | range symbols start finish explicit overrides =>
    cases h
    rfl
  | ofType symbol requested window explicit =>
    cases h
    exact refusalOf_reach? ..
  | typed symbols requested window explicit =>
    cases h
    exact refusalOf_reach?_several _ rfl ..
  | tradeBars symbol window explicit =>
    cases h
    exact refusalOf_barCall? ..
  | warmUp =>
    cases h
    exact refusalOf_warmUpCall?
  | lastPrices symbol => cases h
  | lastPrice symbol => cases h

/-! ### Accepted calls -/

/-- The planner makes a request for one type of data of one symbol, or tells why it does not. -/
lemma mismatch?_eq_none_iff {r : Resolver} {symbol : Symbol} {requested : DataType}
    {explicit : Option Resolution} :
    r.mismatch? symbol requested explicit = none ↔
      ∃ s, (r.resolve symbol requested explicit).value.head? = some s := by
  simp only [Resolver.mismatch?]
  cases (r.resolve symbol requested explicit).value <;> simp

/-- The planner accepts a call if there is no reason against it. -/
lemma exists_accepts_of_refusalOf {c : Except InvalidRequest Call} (h : d.refusalOf c = none) :
    ∃ call, c = .ok call ∧ d.planner.Accepts call := by
  cases c with
  | error e => cases h
  | ok call =>
    simp only [refusalOf] at h
    split at h
    · cases h
    next hrefuses =>
      rw [Bool.not_eq_true] at hrefuses
      refine ⟨call, rfl, hrefuses, fun hone => ?_⟩
      obtain ⟨scope, reach, explicit⟩ := call
      cases scope with
      | all symbols => cases hone
      | each symbols requested => cases hone
      | one symbol requested =>
        obtain ⟨s, hs⟩ := mismatch?_eq_none_iff.mp h
        have hrequest : d.planner.requestOne? symbol requested reach explicit =
            .ok (d.planner.requestFor (.one symbol requested) reach explicit symbol s) := by
          simp only [Planner.requestOne?, hrefuses, Bool.false_eq_true, if_false]
          rw [show d.planner.resolver = d.resolver from rfl, hs]
        show d.planner.requests (.one symbol requested) reach explicit ≠ []
        rw [Planner.requests_one, hrequest]
        exact List.cons_ne_nil _ _

/-! ### Answers -/

/-- A question whose call is refused fails for the reason. -/
lemma value_answer_of_refusalOf {q : Question} {c : Except InvalidRequest Call}
    (hc : d.call? q = some c) {cause : InvalidRequest} (h : d.refusalOf c = some cause) :
    (d.answer q).run.value = .error (.invalidRequest cause) := by
  cases hq : q.isOfType with
  | false =>
    rw [value_answer d hc hq]
    cases c with
    | error e =>
      cases h
      rfl
    | ok call =>
      have hone : call.scope.isOne = false := (scope_explicit_of_call? hc).1.trans hq
      simp only [refusalOf, missing?_of_isOne_eq_false hone] at h
      split at h
      next hrefuses =>
        cases h
        simp only [outcome, if_pos hrefuses]
        rfl
      next => cases h
  | true =>
    cases q with
    | ofType symbol requested window explicit =>
      cases hc
      refine (value_map _ _).trans ?_
      rw [value_historyOf, value_requestOf]
      cases hreach : d.reach? window with
      | error e =>
        rw [hreach] at h
        cases h
        rfl
      | ok reach =>
        rw [hreach] at h
        simp only [Except.map, refusalOf, missing?, Resolver.mismatch?] at h
        simp only [Except.bind, Planner.requestOne?]
        split at h
        next hrefuses =>
          cases h
          rw [if_pos hrefuses]
          rfl
        next hrefuses =>
          rw [if_neg hrefuses]
          split at h
          next hnone =>
            cases h
            rw [show d.planner.resolver = d.resolver from rfl, hnone]
            rfl
          next => cases h
    | _ => cases hq

/-- What delivers requests finds no fault with them. -/
lemma value_historyOfRequests_ne (requests : List Request) {α : Type} (read : List Slice → α)
    (cause : InvalidRequest) :
    (d.historyOfRequests requests).value.map read ≠ .error (.invalidRequest cause) := by
  intro h
  rw [value_historyOfRequests_eq] at h
  split at h
  · split at h <;> cases h
  · cases h

/-- A question that is refused fails for the reason, and nothing is delivered. -/
lemma answer_of_refusal? {q : Question} {cause : InvalidRequest}
    (h : d.refusal? q = some cause) :
    (d.answer q).run.value = .error (.invalidRequest cause) ∧ (d.answer q).run.batches = [] := by
  cases hc : d.call? q with
  | none => cases q <;> first | cases h | cases hc
  | some c =>
    rw [← refusalOf_call? hc] at h
    have hvalue := value_answer_of_refusalOf hc h
    refine ⟨hvalue, ?_⟩
    cases answer_cases hc with
    | accepted call hcall haccepts hasks =>
      exact absurd (hasks.value.symm.trans hvalue) (value_historyOfRequests_ne _ _ _)
    | refused hcall hrefuses => exact hrefuses.quiet.batches

/-- A question that is not refused hands over its requests once. -/
lemma exists_asks_of_refusal? {q : Question} (hq : q.isLatest = false)
    (h : d.refusal? q = none) :
    ∃ requests read, d.Asks (d.answer q) requests read := by
  cases hc : d.call? q with
  | none =>
    cases q with
    | requests requests => exact ⟨requests, _, (asks_historyRequests requests).map _⟩
    | lastPrices symbol => cases hq
    | lastPrice symbol => cases hq
    | _ => cases hc
  | some c =>
    rw [← refusalOf_call? hc] at h
    cases answer_cases hc with
    | accepted call hcall haccepts hasks => exact ⟨_, _, hasks⟩
    | refused hcall hrefuses =>
      obtain ⟨call, hok, haccepts⟩ := exists_accepts_of_refusalOf h
      exact absurd haccepts (hcall call hok)

/-- Whatever the desk, a question is refused as invalid exactly for the reason that its arguments
give, and then nothing is delivered. Any other question delivers one batch if queries reach the
archive, and fails exactly if the archive does; if queries do not reach it, the question fails for
want of an archive. -/
theorem answer_refused_iff (d : Desk) {q : Question} (hq : q.isLatest = false) :
    let asked := (d.answer q).run
    (∀ cause, asked.value = .error (.invalidRequest cause) ↔ d.refusal? q = some cause) ∧
    (d.refusal? q ≠ none → asked.batches = []) ∧
    (d.refusal? q = none → d.connected = true →
      (∃ batch, asked.batches = [batch]) ∧
      (∀ reason, d.archive.failure = some reason → asked.value = .error (.provider reason)) ∧
      (d.archive.failure = none → ∃ answer, asked.value = .ok answer)) ∧
    (d.refusal? q = none → d.connected = false →
      asked.batches = [] ∧ asked.value = .error .noProvider) := by
  intro asked
  cases h : d.refusal? q with
  | some cause =>
    obtain ⟨hvalue, hbatches⟩ := answer_of_refusal? h
    refine ⟨fun cause' => ?_, fun _ => hbatches, fun hnone => ?_, fun hnone => ?_⟩
    · show (d.answer q).run.value = _ ↔ _
      rw [hvalue, Except.error.injEq, QueryError.invalidRequest.injEq, Option.some.injEq]
    · cases hnone
    · cases hnone
  | none =>
    obtain ⟨requests, read, hasks⟩ := exists_asks_of_refusal? hq h
    have hvalue : asked.value = _ := hasks.value
    have hbatches : asked.batches = _ := hasks.batches
    rw [value_historyOfRequests_eq] at hvalue
    rw [batches_historyOfRequests] at hbatches
    refine ⟨fun cause => ?_, fun hsome => absurd rfl hsome, fun _ hconnected => ?_,
      fun _ hconnected => ?_⟩
    · refine iff_of_false (fun herror => ?_) (Option.some_ne_none cause).symm
      exact value_historyOfRequests_ne requests read cause (hasks.value.symm.trans herror)
    · rw [if_pos hconnected] at hvalue hbatches
      refine ⟨⟨_, hbatches⟩, fun reason hfailure => ?_, fun hfailure => ?_⟩
      · rw [hvalue, hfailure]
        rfl
      · rw [hvalue, hfailure]
        exact ⟨_, rfl⟩
    · rw [if_neg (Bool.not_eq_true _ ▸ hconnected)] at hvalue hbatches
      exact ⟨hbatches, hvalue⟩

/-- The longest span, some 292 million years. -/
def longest : Span := ⟨9223372036854775807000000, by decide, by decide⟩

/-- With a subscription to ticks, a question about bars of trades over too long a span is refused
for the ticks and not for the span. -/
theorem answer_refused_of_ticks :
    let desk := lastMidnight.afterAll
      [.addSecurity Planner.spy, .subscribe (.of Planner.spy .tick .trade .utc)]
    let question : Question := .tradeBars Planner.spy (.span longest) none
    question.isLatest = false ∧ desk.now.sub? longest = none ∧
      (desk.answer question).run.value = .error (.invalidRequest .tickTradeBars) ∧
      (desk.answer question).run.batches = [] := by
  intro desk question
  have hrefusal : desk.refusal? question = some .tickTradeBars := by decide +kernel
  obtain ⟨hvalue, hbatches, -⟩ := answer_refused_iff desk (q := question) rfl
  refine ⟨rfl, by decide +kernel, (hvalue _).mpr hrefusal, hbatches ?_⟩
  rw [hrefusal]
  exact Option.some_ne_none _

end Desk

end MarketHistory
