import MarketHistory.Proofs.Desk.Dispatch
import MarketHistory.Proofs.Planning.Calls
import MarketHistory.Proofs.Planning.Quiet

/-!
# Questions as calls of the planner

Most questions are answered by a single call of the planner: its requests are handed to dispatch,
and the answer is read off the slices that come back (`answer_cases`). Such a question is refused,
before anything is submitted, if its window cannot be told or the planner does not accept the call.
-/

namespace MarketHistory

/-- A call of a planner. -/
structure Call where
  scope    : Scope
  reach    : Reach
  explicit : Option Resolution
deriving DecidableEq

/-- Whether a call wants data of one type of one symbol, which have to exist. -/
def Scope.isOne : Scope → Bool
  | one .. => true
  | _      => false

namespace Planner

/-- The requests that are made for a call. -/
def requestsOf (p : Planner) (c : Call) : List Request := p.requests c.scope c.reach c.explicit

/-- The planner makes requests for the call: it does not count ticks as bars, and data of one type
of one symbol exist if they are wanted. -/
def Accepts (p : Planner) (c : Call) : Prop :=
  c.reach.refuses c.explicit = false ∧ (c.scope.isOne = true → p.requestsOf c ≠ [])

end Planner

namespace Desk

/-! ### The call for a question -/

/-- How far a window reaches from the present. -/
def reach? (d : Desk) : Window → Except InvalidRequest Reach
  | .span length        => (spanStart d.now length).map fun start => .range start d.now .none
  | .periods count      => .ok (.bars count d.now)
  | .range start finish => .ok (.range start finish .none)

/-- How far a window of bars of one symbol reaches; the start of a number of bars is looked up
beforehand. -/
def barReach? (d : Desk) (symbol : Symbol) (window : Window) (resolution : Resolution) :
    Except InvalidRequest Reach :=
  match window with
  | .periods count =>
    (d.planner.startForPeriods symbol count (some resolution) d.now).value.map fun start =>
      .range start d.now .none
  | window => d.reach? window

/-- The call for bars of trades of one symbol, which cannot be ticks. -/
def barCall? (d : Desk) (symbol : Symbol) (window : Window) (explicit : Option Resolution) :
    Except InvalidRequest Call :=
  let resolution := d.resolver.effectiveResolution symbol explicit
  if resolution.isTick then .error .tickTradeBars
  else (d.barReach? symbol window resolution).map fun reach =>
    ⟨.all [symbol], reach, some resolution⟩

/-- The call for the warm-up; without a specification it is for no symbols. -/
def warmUpCall? (d : Desk) : Except InvalidRequest Call :=
  match d.warmUp.spec with
  | none                         => .ok ⟨.all [], .bars 0 d.now, none⟩
  | some (.bars count explicit)  => .ok ⟨.all d.knownSymbols, .bars count d.now, explicit⟩
  | some (.span length explicit) =>
    (d.reach? (.span length)).map fun reach => ⟨.all d.knownSymbols, reach, explicit⟩

/-- The call that answers a question, if its window can be told. Requests that are given are not
planned, and last prices take two calls. -/
def call? (d : Desk) : Question → Option (Except InvalidRequest Call)
  | .requests _                        => none
  | .span symbols length explicit      =>
    some ((d.reach? (.span length)).map fun reach => ⟨.all symbols, reach, explicit⟩)
  | .periods symbols count explicit    => some (.ok ⟨.all symbols, .bars count d.now, explicit⟩)
  | .range symbols start finish explicit overrides =>
    some (.ok ⟨.all symbols, .range start finish overrides, explicit⟩)
  | .ofType symbol requested window explicit =>
    some ((d.reach? window).map fun reach => ⟨.one symbol requested, reach, explicit⟩)
  | .typed symbols requested window explicit =>
    some ((d.reach? window).map fun reach => ⟨.each symbols requested, reach, explicit⟩)
  | .tradeBars symbol window explicit  => some (d.barCall? symbol window explicit)
  | .warmUp                            => some d.warmUpCall?
  | .lastPrices _                      => none
  | .lastPrice _                       => none

/-- The resolution of what is asked for, if the question fixes it. Bars of trades are asked for at
the effective resolution, and last known prices at the one of the look back. -/
def fixedResolution? (d : Desk) : Question → Option Resolution
  | .requests _                  => none
  | .span _ _ explicit           => explicit
  | .periods _ _ explicit        => explicit
  | .range _ _ _ explicit _      => explicit
  | .ofType _ _ _ explicit       => explicit
  | .typed _ _ _ explicit        => explicit
  | .tradeBars symbol _ explicit => some (d.resolver.effectiveResolution symbol explicit)
  | .warmUp                      => d.warmUp.spec.bind (·.resolution)
  | .lastPrices symbol           => some (d.lookbackResolution symbol)
  | .lastPrice symbol            => some (d.lookbackResolution symbol)

end Desk

/-- Whether the question is about one type of data of one symbol. -/
def Question.isOfType : Question → Bool
  | ofType .. => true
  | _         => false

/-- The answer that is read off the slices for a question. -/
def Question.read : Question → List Slice → Answer
  | .ofType symbol requested _ _, slices => .observations (Slice.project slices symbol requested)
  | .typed _ requested _ _, slices       => .slices (Slice.restrict slices requested)
  | .tradeBars symbol _ _, slices        =>
    .bars ((Slice.project slices symbol .tradeBar).filterMap Observation.tradeBar?)
  | _, slices                            => .slices slices

namespace Desk

variable {α β : Type} {d : Desk}

/-! ### Asking and refusing -/

/-- The query hands over these requests and nothing else, and its result is read off the slices that
come back. -/
structure Asks (d : Desk) (x : Query α) (requests : List Request) (read : List Slice → α) :
    Prop where
  value       : x.run.value = (d.historyOfRequests requests).value.map read
  submissions : x.run.submissions = (d.historyOfRequests requests).submissions
  batches     : x.run.batches = (d.historyOfRequests requests).batches

/-- The query fails and hands over nothing. -/
structure Refuses (x : Query α) : Prop where
  value : ∃ e, x.run.value = .error e
  quiet : x.run.Quiet

lemma run_bind (x : Query α) (f : α → Query β) :
    (x >>= f).run = x.run >>= ExceptT.bindCont f := rfl

lemma asks_historyRequests (requests : List Request) :
    d.Asks (d.historyRequests requests) requests id := by
  refine ⟨?_, rfl, rfl⟩
  show (d.historyOfRequests requests).value = _
  cases (d.historyOfRequests requests).value <;> rfl

/-- A quiet step that succeeds changes nothing. -/
lemma Asks.bind {x : Query α} {f : α → Query β} {requests : List Request} {read : List Slice → β}
    (hx : x.run.Quiet) {a : α} (ha : x.run.value = .ok a) (h : d.Asks (f a) requests read) :
    d.Asks (x >>= f) requests read where
  value := by
    rw [run_bind, Traced.value_bind, ha]
    exact h.value
  submissions := by
    rw [run_bind, Traced.submissions_bind, hx.submissions, List.nil_append, ha]
    exact h.submissions
  batches := by
    rw [run_bind, Traced.batches_bind, hx.batches, List.nil_append, ha]
    exact h.batches

lemma Asks.map {x : Query α} {requests : List Request} {read : List Slice → α}
    (h : d.Asks x requests read) (f : α → β) :
    d.Asks (x >>= fun a => pure (f a)) requests (f ∘ read) where
  value := by
    rw [run_bind, Traced.value_bind, h.value]
    cases (d.historyOfRequests requests).value <;> rfl
  submissions := by
    rw [run_bind, Traced.submissions_bind, h.submissions, h.value]
    cases (d.historyOfRequests requests).value <;> exact List.append_nil _
  batches := by
    rw [run_bind, Traced.batches_bind, h.batches, h.value]
    cases (d.historyOfRequests requests).value <;> exact List.append_nil _

lemma refuses_throw (e : QueryError) : Refuses (throw e : Query α) :=
  ⟨⟨e, rfl⟩, Query.quiet_throw e⟩

/-- What follows a refusal is not reached. -/
lemma Refuses.bind {x : Query α} (h : Refuses x) (f : α → Query β) : Refuses (x >>= f) := by
  obtain ⟨e, he⟩ := h.value
  refine ⟨⟨e, ?_⟩, h.quiet.bind_value ?_⟩
  · rw [run_bind, Traced.value_bind, he]
    rfl
  · rw [he]
    exact Query.quiet_throw e

/-- A refusal after a quiet step that succeeds. -/
lemma Refuses.after {x : Query α} {f : α → Query β} (hx : x.run.Quiet) {a : α}
    (ha : x.run.value = .ok a) (h : Refuses (f a)) : Refuses (x >>= f) := by
  obtain ⟨e, he⟩ := h.value
  refine ⟨⟨e, ?_⟩, hx.bind_value ?_⟩
  · rw [run_bind, Traced.value_bind, ha]
    exact he
  · rw [ha]
    exact h.quiet

/-! ### Queries by way of a call -/

/-- The query asks for the requests of a call that the planner accepts, or refuses because there is
no such call. -/
inductive By (d : Desk) (x : Query α) (c : Except InvalidRequest Call) (read : List Slice → α) :
    Prop where
  | accepted (call : Call) (hcall : c = .ok call) (haccepts : d.planner.Accepts call)
      (hasks : d.Asks x (d.planner.requestsOf call) read)
  | refused (hcall : ∀ call, c = .ok call → ¬d.planner.Accepts call) (hrefuses : Refuses x)

lemma By.map {x : Query α} {c : Except InvalidRequest Call} {read : List Slice → α}
    (h : d.By x c read) (f : α → β) : d.By (x >>= fun a => pure (f a)) c (f ∘ read) := by
  cases h with
  | accepted call hcall haccepts hasks => exact .accepted call hcall haccepts (hasks.map f)
  | refused hcall hrefuses => exact .refused hcall (hrefuses.bind _)

/-- A quiet step that succeeds changes nothing. -/
lemma By.after {x : Query α} {f : α → Query β} {c : Except InvalidRequest Call}
    {read : List Slice → β} (hx : x.run.Quiet) {a : α} (ha : x.run.value = .ok a)
    (h : d.By (f a) c read) : d.By (x >>= f) c read := by
  cases h with
  | accepted call hcall haccepts hasks => exact .accepted call hcall haccepts (hasks.bind hx ha)
  | refused hcall hrefuses => exact .refused hcall (hrefuses.after hx ha)

/-- Without a call there is none to be accepted. -/
lemma not_accepts_of_error {e : InvalidRequest} :
    ∀ call, (.error e : Except InvalidRequest Call) = .ok call → ¬d.planner.Accepts call := by
  intro call h
  cases h

/-- A step that fails because there is no call. -/
lemma By.invalid {e : InvalidRequest} {f : α → Query β} {read : List Slice → β} :
    d.By (Query.ofInvalid (.error e) >>= f) (.error e) read :=
  .refused not_accepts_of_error ((refuses_throw _).bind f)

/-- A call for several symbols is accepted if it does not count ticks as bars. -/
lemma accepts_of_isOne_eq_false {p : Planner} {call : Call}
    (hrefuses : call.reach.refuses call.explicit = false) (hone : call.scope.isOne = false) :
    p.Accepts call :=
  ⟨hrefuses, fun h => absurd (hone.symm.trans h) Bool.false_ne_true⟩

/-- Only calls that the planner accepts make requests. -/
lemma accepts_of_mem_requestsOf {p : Planner} {call : Call} {r : Request}
    (hr : r ∈ p.requestsOf call) : p.Accepts call := by
  refine ⟨?_, fun _ => List.ne_nil_of_mem hr⟩
  cases hrefuses : call.reach.refuses call.explicit with
  | false => rfl
  | true =>
    rw [Planner.requestsOf, Planner.requests_eq, if_pos hrefuses] at hr
    cases hr

lemma submissions_historyOfRequests (requests : List Request) :
    (d.historyOfRequests requests).submissions = if d.connected then [requests] else [] := by
  simp only [historyOfRequests]
  split
  · exact submissions_dispatch d requests
  · rfl

/-- A request is submitted on the way exactly if queries reach the archive and the call makes that
request. -/
lemma By.exists_submitted_iff {x : Query α} {c : Except InvalidRequest Call}
    {read : List Slice → α} (h : d.By x c read) {P : Request → Prop} :
    (∃ requests ∈ x.run.submissions, ∃ r ∈ requests, P r) ↔
      d.connected = true ∧ ∃ call, c = .ok call ∧ ∃ r ∈ d.planner.requestsOf call, P r := by
  cases h with
  | accepted call hcall haccepts hasks =>
    rw [hasks.submissions, submissions_historyOfRequests, hcall]
    cases d.connected <;> simp
  | refused hcall hrefuses =>
    rw [hrefuses.quiet.submissions]
    constructor
    · rintro ⟨requests, hrequests, -⟩
      cases hrequests
    · rintro ⟨-, call, hok, r, hr, -⟩
      exact absurd (accepts_of_mem_requestsOf hr) (hcall call hok)

/-! ### Plans of a call -/

/-- The plan makes the requests of a call that the planner accepts, or there is no plan because
there is no such call. -/
inductive Plans (d : Desk) (plan? : Except InvalidRequest Plan) (c : Except InvalidRequest Call) :
    Prop where
  | accepted (plan : Plan) (call : Call) (hplan : plan? = .ok plan) (hcall : c = .ok call)
      (haccepts : d.planner.Accepts call) (hvalue : plan.all.value = d.planner.requestsOf call)
      (hquiet : plan.all.Quiet)
  | refused (e : InvalidRequest) (hplan : plan? = .error e)
      (hcall : ∀ call, c = .ok call → ¬d.planner.Accepts call)

lemma plans_range (symbols : List Symbol) (start finish : Instant) (explicit : Option Resolution)
    (overrides : Overrides) :
    d.Plans (.ok (d.planner.range symbols start finish explicit overrides))
      (.ok ⟨.all symbols, .range start finish overrides, explicit⟩) :=
  .accepted _ _ rfl rfl (accepts_of_isOne_eq_false rfl rfl) rfl (Planner.quiet_range ..)

lemma plans_typedRanges (symbols : List Symbol) (requested : DataType) (start finish : Instant)
    (explicit : Option Resolution) :
    d.Plans (.ok (d.planner.typedRanges symbols requested start finish explicit))
      (.ok ⟨.each symbols requested, .range start finish .none, explicit⟩) :=
  .accepted _ _ rfl rfl (accepts_of_isOne_eq_false rfl rfl) rfl (Planner.quiet_typedRanges ..)

/-- A plan over a number of bars of several symbols, which is refused for ticks. -/
lemma plans_bars_of {plan : Plan} {scope : Scope} {periods : Nat} {finish : Instant}
    {explicit : Option Resolution} (hone : scope.isOne = false)
    (hquiet : explicit ≠ some .tick → plan.all.Quiet)
    (hvalue : d.planner.requests scope (.bars periods finish) explicit =
      Planner.planned (if explicit = some .tick then .error .tickPeriods else .ok plan)) :
    d.Plans (if explicit = some .tick then .error .tickPeriods else .ok plan)
      (.ok ⟨scope, .bars periods finish, explicit⟩) := by
  by_cases htick : explicit = some .tick
  · refine .refused .tickPeriods (if_pos htick) fun call hcall haccepts => ?_
    cases hcall
    have hrefuses : (Reach.bars periods finish).refuses explicit = true := decide_eq_true htick
    exact Bool.false_ne_true (haccepts.1.symm.trans hrefuses)
  · have haccepts : d.planner.Accepts ⟨scope, .bars periods finish, explicit⟩ :=
      accepts_of_isOne_eq_false (decide_eq_false htick) hone
    rw [if_neg htick] at hvalue ⊢
    exact .accepted plan _ rfl rfl haccepts hvalue.symm (hquiet htick)

lemma plans_bars (symbols : List Symbol) (periods : Nat) (finish : Instant)
    (explicit : Option Resolution) :
    d.Plans (d.planner.bars symbols periods explicit finish)
      (.ok ⟨.all symbols, .bars periods finish, explicit⟩) :=
  plans_bars_of rfl (fun htick => Planner.quiet_bars (if_neg htick)) rfl

lemma plans_typedBarsPlan (symbols : List Symbol) (requested : DataType) (periods : Nat)
    (finish : Instant) (explicit : Option Resolution) :
    d.Plans (d.planner.typedBarsPlan symbols requested periods explicit finish)
      (.ok ⟨.each symbols requested, .bars periods finish, explicit⟩) :=
  plans_bars_of rfl (fun htick => Planner.quiet_typedBarsPlan (if_neg htick)) rfl

lemma plans_typedPlan (symbols : List Symbol) (requested : DataType) (window : Window)
    (explicit : Option Resolution) :
    d.Plans (d.typedPlan symbols requested window explicit)
      ((d.reach? window).map fun reach => ⟨.each symbols requested, reach, explicit⟩) := by
  cases window with
  | span length =>
    simp only [typedPlan, reach?]
    cases spanStart d.now length with
    | ok start => exact plans_typedRanges ..
    | error e => exact .refused e rfl not_accepts_of_error
  | periods count => exact plans_typedBarsPlan ..
  | range start finish => exact plans_typedRanges ..

lemma plans_warmUpPlan : d.Plans d.warmUpPlan d.warmUpCall? := by
  simp only [warmUpPlan, warmUpCall?, reach?]
  cases d.warmUp.spec with
  | none => exact plans_bars [] 0 d.now none
  | some spec =>
    cases spec with
    | bars count explicit => exact plans_bars ..
    | span length explicit =>
      dsimp only
      cases spanStart d.now length with
      | ok start => exact plans_range ..
      | error e => exact .refused e rfl not_accepts_of_error

/-- The requests for the warm-up are those of a call that the planner accepts. -/
lemma exists_call_of_warmUpRequests {requests : List Request}
    (hvalue : d.warmUpRequests.run.value = .ok requests) :
    ∃ call, d.warmUpCall? = .ok call ∧ d.planner.Accepts call ∧
      requests = d.planner.requestsOf call := by
  cases plans_warmUpPlan (d := d) with
  | accepted plan call hplan hcall haccepts hplanned hquiet =>
    simp only [warmUpRequests, hplan] at hvalue
    refine ⟨call, hcall, haccepts, ?_⟩
    rw [← hplanned]
    exact (Except.ok.inj hvalue).symm
  | refused e hplan hcall =>
    simp only [warmUpRequests, hplan] at hvalue
    cases hvalue

/-! ### Queries by way of a plan -/

lemma by_historyPlan {plan? : Except InvalidRequest Plan} {c : Except InvalidRequest Call}
    (h : d.Plans plan? c) : d.By (Query.ofInvalid plan? >>= d.historyPlan) c id := by
  cases h with
  | accepted plan call hplan hcall haccepts hvalue hquiet =>
    refine .accepted call hcall haccepts ?_
    have hasks : d.Asks (d.historyPlan plan) plan.all.value id :=
      (asks_historyRequests _).bind (Query.quiet_lift hquiet) rfl
    rw [hplan, ← hvalue]
    exact hasks.bind (Query.quiet_pure plan) rfl
  | refused e hplan hcall =>
    refine .refused hcall ?_
    rw [hplan]
    exact (refuses_throw _).bind _

lemma by_historyRange (symbols : List Symbol) (start finish : Instant)
    (explicit : Option Resolution) (overrides : Overrides) :
    d.By (d.historyRange symbols start finish explicit overrides)
      (.ok ⟨.all symbols, .range start finish overrides, explicit⟩) id :=
  by_historyPlan (plans_range symbols start finish explicit overrides)

lemma by_historySpan (symbols : List Symbol) (length : Span) (explicit : Option Resolution) :
    d.By (d.historySpan symbols length explicit)
      ((d.reach? (.span length)).map fun reach => ⟨.all symbols, reach, explicit⟩) id := by
  simp only [historySpan, reach?]
  cases spanStart d.now length with
  | ok start => exact (by_historyRange ..).after (Query.quiet_ofInvalid _) rfl
  | error e => exact .invalid

lemma by_historyPeriods (symbols : List Symbol) (count : Nat) (explicit : Option Resolution) :
    d.By (d.historyPeriods symbols count explicit)
      (.ok ⟨.all symbols, .bars count d.now, explicit⟩) id :=
  by_historyPlan (plans_bars symbols count d.now explicit)

lemma by_typedHistory (symbols : List Symbol) (requested : DataType) (window : Window)
    (explicit : Option Resolution) :
    d.By (d.typedHistory symbols requested window explicit)
      ((d.reach? window).map fun reach => ⟨.each symbols requested, reach, explicit⟩)
      (Slice.restrict · requested) := by
  simp only [typedHistory]
  rw [← bind_assoc]
  exact (by_historyPlan (plans_typedPlan ..)).map _

lemma by_warmUpHistory : d.By d.warmUpHistory d.warmUpCall? id := by
  simp only [warmUpHistory, warmUpRequests]
  rw [bind_assoc]
  exact by_historyPlan plans_warmUpPlan

/-! ### Data of one type of one symbol -/

lemma value_ofTraced {α : Type} (x : Traced (Except InvalidRequest α)) :
    (Query.ofTraced x).run.value = x.value.mapError .invalidRequest := by
  show (Query.ofInvalid x.value).run.value = _
  cases x.value <;> rfl

/-- The request that a query for one type of data of one symbol answers, or why there is none. -/
lemma value_requestOf (symbol : Symbol) (requested : DataType) (window : Window)
    (explicit : Option Resolution) :
    (d.requestOf symbol requested window explicit).run.value =
      ((d.reach? window).bind fun reach =>
        d.planner.requestOne? symbol requested reach explicit).mapError .invalidRequest := by
  cases window with
  | span length =>
    simp only [requestOf, reach?]
    cases spanStart d.now length with
    | ok start =>
      show (Query.ofTraced (d.planner.typedRange symbol requested start d.now explicit)).run.value =
        (d.planner.requestOne? symbol requested (.range start d.now .none) explicit).mapError _
      rw [value_ofTraced, Planner.value_typedRange]
    | error e => rfl
  | periods count =>
    simp only [requestOf, reach?]
    rw [value_ofTraced, Planner.value_typedBars]
    rfl
  | range start finish =>
    simp only [requestOf, reach?]
    rw [value_ofTraced, Planner.value_typedRange _ _ _ _ start finish .none]
    rfl

/-- The requests of a call; none if there is no call. -/
def requestsOf? (d : Desk) : Except InvalidRequest Call → List Request
  | .ok call => d.planner.requestsOf call
  | .error _ => []

/-- The request for one symbol is the one that its call makes. -/
lemma toList_value_requestOf (symbol : Symbol) (requested : DataType) (window : Window)
    (explicit : Option Resolution) :
    (d.requestOf symbol requested window explicit).run.value.toOption.toList =
      d.requestsOf?
        ((d.reach? window).map fun reach => ⟨.one symbol requested, reach, explicit⟩) := by
  rw [value_requestOf]
  cases d.reach? window with
  | error e => rfl
  | ok reach =>
    simp only [Except.bind, Except.map, requestsOf?, Planner.requestsOf, Planner.requests_one]
    cases d.planner.requestOne? symbol requested reach explicit <;> rfl

lemma by_historyOf (symbol : Symbol) (requested : DataType) (window : Window)
    (explicit : Option Resolution) :
    d.By (d.historyOf symbol requested window explicit)
      ((d.reach? window).map fun reach => ⟨.one symbol requested, reach, explicit⟩)
      (Slice.project · symbol requested) := by
  have hquiet := d.quiet_requestOf symbol window requested explicit
  have hlist := toList_value_requestOf (d := d) symbol requested window explicit
  simp only [historyOf]
  cases hvalue : (d.requestOf symbol requested window explicit).run.value with
  | ok request =>
    rw [hvalue] at hlist
    cases hreach : d.reach? window with
    | ok reach =>
      rw [hreach] at hlist
      have hrequests : d.planner.requestsOf ⟨.one symbol requested, reach, explicit⟩ = [request] :=
        hlist.symm
      refine .accepted _ rfl (accepts_of_mem_requestsOf (hrequests ▸ List.mem_cons_self)) ?_
      rw [hrequests]
      exact ((asks_historyRequests [request]).map _).bind hquiet hvalue
    | error e =>
      rw [hreach] at hlist
      cases hlist
  | error e =>
    refine .refused ?_ (((⟨⟨_, hvalue⟩, hquiet⟩ : Refuses _)).bind _)
    intro call hcall haccepts
    rw [hvalue, hcall] at hlist
    cases hreach : d.reach? window with
    | ok reach =>
      rw [hreach] at hcall
      cases hcall
      exact haccepts.2 rfl hlist.symm
    | error e =>
      rw [hreach] at hcall
      cases hcall

/-! ### Bars of trades -/

/-- The range of time for bars is the one that their window reaches over, or neither can be told,
for the same reason. -/
lemma barRange_cases (symbol : Symbol) (window : Window) (resolution : Resolution) :
    (∃ start finish, (d.barRange symbol window resolution).run.value = .ok (start, finish) ∧
      d.barReach? symbol window resolution = .ok (.range start finish .none)) ∨
    ∃ e, (d.barRange symbol window resolution).run.value = .error (.invalidRequest e) ∧
      d.barReach? symbol window resolution = .error e := by
  cases window with
  | span length =>
    simp only [barRange, barReach?, reach?]
    cases spanStart d.now length with
    | ok start => exact .inl ⟨start, d.now, rfl, rfl⟩
    | error e => exact .inr ⟨e, rfl, rfl⟩
  | periods count =>
    simp only [barRange, barReach?]
    have hvalue : (Query.ofTraced
        (d.planner.startForPeriods symbol count (some resolution) d.now)).run.value =
          (Query.ofInvalid
            (d.planner.startForPeriods symbol count (some resolution) d.now).value).run.value := rfl
    rw [run_bind, Traced.value_bind, hvalue]
    cases (d.planner.startForPeriods symbol count (some resolution) d.now).value with
    | ok start => exact .inl ⟨start, d.now, rfl, rfl⟩
    | error e => exact .inr ⟨e, rfl, rfl⟩
  | range start finish => exact .inl ⟨start, finish, rfl, rfl⟩

lemma by_tradeBars (symbol : Symbol) (window : Window) (explicit : Option Resolution) :
    d.By (d.tradeBars symbol window explicit) (d.barCall? symbol window explicit)
      fun slices => (Slice.project slices symbol .tradeBar).filterMap Observation.tradeBar? := by
  let resolution := d.resolver.effectiveResolution symbol explicit
  let read (slices : List Slice) : List TradeBar :=
    (Slice.project slices symbol .tradeBar).filterMap Observation.tradeBar?
  -- what follows the report on symbols without trades
  have hbars : d.By (do
      if resolution.isTick then throw (.invalidRequest .tickTradeBars)
      let range ← d.barRange symbol window resolution
      let slices ← d.historyRange [symbol] range.1 range.2 (some resolution) .none
      return read slices) (d.barCall? symbol window explicit) read := by
    simp only [barCall?]
    split
    · refine .refused not_accepts_of_error ?_
      exact (refuses_throw _).bind _
    · have hquiet := d.quiet_barRange symbol window resolution
      obtain ⟨start, finish, hvalue, hreach⟩ | ⟨e, hvalue, hreach⟩ :=
        barRange_cases (d := d) symbol window resolution
      · rw [hreach]
        exact ((by_historyRange [symbol] start finish (some resolution) .none).map read).after
          hquiet hvalue
      · rw [hreach]
        exact .refused not_accepts_of_error (((⟨⟨_, hvalue⟩, hquiet⟩ : Refuses _)).bind _)
  simp only [tradeBars]
  split
  · exact hbars.after (Query.quiet_lift (Traced.Quiet.notice _)) rfl
  · exact hbars

/-! ### Questions -/

/-- The call for a question is for several symbols, unless the question is about one type of data of
one symbol, and is made with the resolution that the question fixes. -/
lemma scope_explicit_of_call? {q : Question} {call : Call} (hcall : d.call? q = some (.ok call)) :
    call.scope.isOne = q.isOfType ∧ call.explicit = d.fixedResolution? q := by
  have hreach : ∀ {x : Except InvalidRequest Reach} {scope explicit},
      some (x.map fun reach => (⟨scope, reach, explicit⟩ : Call)) = some (.ok call) →
        call.scope.isOne = scope.isOne ∧ call.explicit = explicit := by
    intro x scope explicit h
    cases x with
    | ok reach =>
      cases h
      exact ⟨rfl, rfl⟩
    | error e => cases h
  cases q with
  | requests requests => cases hcall
  | span symbols length explicit => exact hreach hcall
  | periods symbols count explicit =>
    cases hcall
    exact ⟨rfl, rfl⟩
  | range symbols start finish explicit overrides =>
    cases hcall
    exact ⟨rfl, rfl⟩
  | ofType symbol requested window explicit => exact hreach hcall
  | typed symbols requested window explicit => exact hreach hcall
  | tradeBars symbol window explicit =>
    simp only [call?, barCall?] at hcall
    split at hcall
    · cases hcall
    · exact hreach hcall
  | warmUp =>
    simp only [call?, warmUpCall?] at hcall
    rw [fixedResolution?]
    split at hcall
    next hspec =>
      cases hcall
      rw [hspec]
      exact ⟨rfl, rfl⟩
    next hspec =>
      cases hcall
      rw [hspec]
      exact ⟨rfl, rfl⟩
    next hspec =>
      rw [hspec]
      exact hreach hcall
  | lastPrices symbol => cases hcall
  | lastPrice symbol => cases hcall

/-- A question that is answered by one call asks for the requests of the call, and its answer is
read off the slices that come back, or it is refused because the planner does not accept the
call. -/
lemma answer_cases {q : Question} {c : Except InvalidRequest Call} (h : d.call? q = some c) :
    d.By (d.answer q) c q.read := by
  cases q with
  | requests requests => cases h
  | span symbols length explicit =>
    cases h
    exact (by_historySpan ..).map _
  | periods symbols count explicit =>
    cases h
    exact (by_historyPeriods ..).map _
  | range symbols start finish explicit overrides =>
    cases h
    exact (by_historyRange ..).map _
  | ofType symbol requested window explicit =>
    cases h
    exact (by_historyOf ..).map _
  | typed symbols requested window explicit =>
    cases h
    exact (by_typedHistory ..).map _
  | tradeBars symbol window explicit =>
    cases h
    exact (by_tradeBars ..).map _
  | warmUp =>
    cases h
    exact by_warmUpHistory.map _
  | lastPrices symbol => cases h
  | lastPrice symbol => cases h

end Desk

end MarketHistory
