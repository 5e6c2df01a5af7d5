import MarketHistory.Proofs.Archive.Counting
import MarketHistory.Proofs.Desk.Foresight
import MarketHistory.Proofs.Desk.Outcome
import MarketHistory.Proofs.Desk.Transcript

/-!
# How often an observation is returned

Every subscription that serves a call leads to a request of its own, and these requests may ask for
the same observations. An observation is returned once for each subscription whose request asks for
it; where no two subscriptions of a symbol overlap, it is returned no more often than it was loaded
(`count_answer_le`).
-/

namespace MarketHistory

/-! ### Feeds -/

/-- A subscription that serves a question and the request that is made for it, which asks for data
of the symbol and kind of the subscription. -/
structure Feed where
  subscription : Subscription
  request      : Request
  symbol       : request.symbol = subscription.symbol
  dataType     : request.dataType = subscription.dataType
  tickType     : request.tickType = subscription.tickType

namespace Feed

/-- The feeds differ in symbol, tick type or requested resolution, or in the type of their data, of
which neither is the general one. -/
def Apart (f g : Feed) : Prop :=
  f.subscription.symbol ≠ g.subscription.symbol ∨
    f.subscription.tickType ≠ g.subscription.tickType ∨
    f.request.resolution ≠ g.request.resolution ∨
    (f.subscription.dataType ≠ g.subscription.dataType ∧
      f.subscription.dataType ≠ .base ∧ g.subscription.dataType ≠ .base)

instance (f g : Feed) : Decidable (f.Apart g) :=
  inferInstanceAs (Decidable (_ ∨ _ ∨ _ ∨ (_ ∧ _ ∧ _)))

/-- No observation belongs to two feeds that are apart. -/
lemma Apart.not_wants {f g : Feed} (h : f.Apart g) {clocks : ZoneClocks} {resolution : Resolution}
    {o : Observation} (hf : f.request.Wants clocks resolution o) :
    ¬g.request.Wants clocks resolution o := by
  intro hg
  rcases h with hsymbol | htick | hresolution | ⟨hdata, hnotBase, hnotBase'⟩
  · exact hsymbol (f.symbol ▸ g.symbol ▸ hf.symbol.symm.trans hg.symbol)
  · exact htick (f.tickType ▸ g.tickType ▸ hf.tickType.symm.trans hg.tickType)
  · exact hresolution (hf.resolution.symm.trans hg.resolution)
  · rw [← f.dataType] at hdata hnotBase
    rw [← g.dataType] at hdata hnotBase'
    have hof := hf.dataType.resolve_left hnotBase
    have hog := hg.dataType.resolve_left hnotBase'
    exact hdata (hof.symm.trans hog)

end Feed

namespace Desk

variable {d : Desk}

/-- The feed of a subscription that serves a call, with the request as it reaches the archive. -/
def feedOf (d : Desk) (call : Call) (e : Symbol × Subscription) : Feed where
  subscription := e.2
  request      := (d.planner.requestFor call.scope call.reach call.explicit e.1 e.2).clip d.now
  symbol       := by
    rw [Request.eqUpToRange_clip _ d.now]
    rfl
  dataType     := by
    rw [Request.eqUpToRange_clip _ d.now]
    rfl
  tickType     := by
    rw [Request.eqUpToRange_clip _ d.now]
    rfl

/-- The feeds of a call; placeholders of universes have none. -/
def feedsOf (d : Desk) (call : Call) : List Feed :=
  ((d.resolver.serving call.scope call.explicit).filter fun e =>
    !d.securities.isUniverse e.2.symbol).map (d.feedOf call)

/-- The feeds of a question that is answered by a call. -/
def feeds (d : Desk) (q : Question) : List Feed :=
  match d.call? q with
  | some (.ok call) => d.feedsOf call
  | _               => []

/-- The feeds to which an observation belongs that was loaded at a resolution. -/
def feedsWith (d : Desk) (clocks : ZoneClocks) (q : Question) (resolution : Resolution)
    (o : Observation) : List Feed :=
  (d.feeds q).filter fun f => f.request.Wants clocks resolution o

/-- The batch of a call that is not refused holds the requests of its feeds. -/
lemma delivery_requestsOf {call : Call} (h : call.reach.refuses call.explicit = false) :
    d.delivery (d.planner.requestsOf call) = (d.feedsOf call).map (·.request) := by
  simp only [delivery, Planner.requestsOf, Planner.requests_eq, h, Bool.false_eq_true, if_false,
    feedsOf, List.filter_map, List.map_map]
  rfl

/-- Slices that answer requests at a desk with a loaded archive are those of the archive for the
delivery. -/
lemma eq_slices_of_value_historyOfRequests {clocks : ZoneClocks} {loads : List Load}
    {failure : Option String} {requests : List Request} {slices : List Slice}
    (h : ((d.withArchive (.loaded clocks loads failure)).historyOfRequests requests).value =
      .ok slices) :
    slices = (Archive.loaded clocks loads failure).slices (d.delivery requests) := by
  rcases value_historyOfRequests_cases (d.withArchive (.loaded clocks loads failure)) with
    ⟨e, herror⟩ | hslices
  · rw [herror] at h
    cases h
  · rw [hslices] at h
    exact (Except.ok.inj h).symm

/-- A question that is answered by a call returns what is read off the slices for its requests. -/
lemma value_take_ask {q : Question} {call : Call} (hq : d.call? q = some (.ok call))
    (haccepts : d.planner.Accepts call) :
    (d.take (.ask q)).value =
      match (d.historyOfRequests (d.planner.requestsOf call)).value with
      | .ok slices => (q.read slices).observationList
      | .error _   => [] := by
  cases answer_cases hq with
  | accepted call' hcall _ hasks =>
    cases hcall
    simp only [take]
    rw [Traced.value_bind, hasks.value]
    cases (d.historyOfRequests (d.planner.requestsOf call)).value <;> rfl
  | refused hcall _ => exact absurd haccepts (hcall call rfl)

/-- A question that is refused returns nothing. -/
lemma value_take_ask_eq_nil {q : Question} {c : Except InvalidRequest Call}
    (hq : d.call? q = some c) (h : ∀ call, c = .ok call → ¬d.planner.Accepts call) :
    (d.take (.ask q)).value = [] := by
  cases answer_cases hq with
  | accepted call hcall haccepts _ => exact absurd haccepts (h call hcall)
  | refused _ hrefuses =>
    obtain ⟨e, he⟩ := hrefuses.value
    simp only [take]
    rw [Traced.value_bind, he]
    rfl

/-- What is returned is a part of the log in which every observation is repeated for each feed that
it belongs to. -/
lemma subperm_take_ask (clocks : ZoneClocks) (loads : List Load) (failure : Option String)
    {q : Question} {c : Except InvalidRequest Call} (hq : d.call? q = some c) :
    ((d.withArchive (.loaded clocks loads failure)).take (.ask q)).value.Subperm
      ((Load.log loads).flatMap fun e =>
        List.replicate (d.feedsWith clocks q e.1 e.2).length e.2) := by
  let desk := d.withArchive (.loaded clocks loads failure)
  by_cases haccepts : ∃ call, c = .ok call ∧ desk.planner.Accepts call
  · obtain ⟨call, rfl, haccepts⟩ := haccepts
    rw [value_take_ask (d := desk) hq haccepts]
    cases hvalue : (desk.historyOfRequests (desk.planner.requestsOf call)).value with
    | error e => exact List.nil_subperm
    | ok slices =>
      have hslices : slices =
          (Archive.loaded clocks loads failure).slices ((d.feedsOf call).map (·.request)) := by
        rw [← delivery_requestsOf haccepts.1]
        exact eq_slices_of_value_historyOfRequests hvalue
      have hcount : ∀ e : Resolution × Observation,
          ((d.feedsOf call).map (·.request)).countP (fun r => r.Wants clocks e.1 e.2) =
            (d.feedsWith clocks q e.1 e.2).length := by
        intro e
        rw [List.countP_map, List.countP_eq_length_filter, feedsWith, feeds, hq]
        rfl
      have hperm := Archive.perm_slices_loaded clocks loads failure ((d.feedsOf call).map (·.request))
      simp only [hcount] at hperm
      rw [← hslices] at hperm
      exact (q.sublist_read slices).subperm.trans hperm.subperm
  · have hnothing : (desk.take (.ask q)).value = [] :=
      value_take_ask_eq_nil hq fun call hcall h => haccepts ⟨call, hcall, h⟩
    rw [hnothing]
    exact List.nil_subperm

/-- Whatever the state of a desk and the subscriptions there are, and whatever is asked in one call:
an observation that was loaded is returned at most once for each subscription that serves the call
and whose request asks for the observation as it was loaded; and if any two subscriptions that serve
the call are apart, no observation is returned more often than it was loaded. -/
theorem count_answer_le (d : Desk) (clocks : ZoneClocks) (loads : List Load)
    (failure : Option String) {q : Question} {c : Except InvalidRequest Call} (hq : d.call? q = some c) :
    let returned := ((d.withArchive (.loaded clocks loads failure)).take (.ask q)).value
    (∀ o, returned.count o ≤ ((Load.log loads).flatMap fun e =>
      List.replicate (d.feedsWith clocks q e.1 e.2).length e.2).count o) ∧
    ((d.feeds q).Pairwise Feed.Apart →
      ∀ o, returned.count o ≤ ((Load.log loads).map (·.2)).count o) := by
  intro returned
  have hsubperm := subperm_take_ask clocks loads failure hq
  refine ⟨fun o => hsubperm.count_le o, fun hapart o => ?_⟩
  have hone : ∀ e ∈ Load.log loads, (d.feedsWith clocks q e.1 e.2).length ≤ 1 := by
    intro e _
    rw [feedsWith, ← List.countP_eq_length_filter]
    apply countP_le_one_of_pairwise
    refine hapart.imp fun {f g} h hf hg => ?_
    exact h.not_wants (of_decide_eq_true hf) (of_decide_eq_true hg)
  exact Nat.le_trans (hsubperm.count_le o) ((flatMap_replicate_sublist _ hone).count_le o)

/-! ### A bar that is asked for once and twice -/

/-- Of two subscriptions, the better one first, both serve a request that leaves out neither. -/
lemma value_resolve_pair {r : Resolver} {symbol : Symbol} {requested : DataType}
    {explicit : Option Resolution} {first second : Subscription}
    (hcatalog : r.catalog.subscriptionsOf symbol = [first, second])
    (hsorted : Resolver.precedes (r.catalog.tickTypesOf symbol.securityType) first second = true)
    (hkept : ([first, second].filter fun s =>
      Resolver.takes requested s.dataType && !Resolver.isExcludedQuote symbol explicit s) =
        [first, second]) :
    (r.resolve symbol requested explicit).value = [first, second] := by
  have hregistered : r.registered symbol requested explicit = [first, second] := by
    simp only [Resolver.registered, hcatalog, mergeSort_pair hsorted, hkept]
  simp only [Resolver.resolve, hregistered]
  rfl

/-- A symbol with two subscriptions, the better one first, is served by both. -/
lemma serving_pair {r : Resolver} {symbol : Symbol} {explicit : Option Resolution}
    {first second : Subscription} (hcanonical : symbol.canonical = false)
    (hcatalog : r.catalog.subscriptionsOf symbol = [first, second])
    (hsorted : Resolver.precedes (r.catalog.tickTypesOf symbol.securityType) first second = true)
    (hkept : ([first, second].filter fun s =>
      Resolver.takes .base s.dataType && !Resolver.isExcludedQuote symbol explicit s) =
        [first, second]) :
    r.serving (.all [symbol]) explicit = [(symbol, first), (symbol, second)] := by
  rw [r.serving_all_singleton hcanonical, value_resolve_pair hcatalog hsorted hkept]
  rfl

/-- A desk at the last midnight of the calendar with subscriptions to a share. -/
def subscribed (subscriptions : List Subscription) : Desk :=
  lastMidnight.afterAll (subscriptions.map .subscribe)

/-- The log of a single bar of a minute. -/
def oneBar : List Load := [⟨.minute, [barOfLastDay 0]⟩]

/-- A question about all bars of a minute up to the present. -/
def allMinutes : Question := .range [Planner.spy] .first lastMidnight.now (some .minute) .none

/-- The call for the question. -/
def minutesCall : Call := ⟨.all [Planner.spy], .range .first lastMidnight.now .none, some .minute⟩

/-- With subscriptions to the trades and the quotes of a minute the bar is returned no more often
than it was loaded. -/
theorem count_answer_le_of_quotes :
    let d := subscribed [.of Planner.spy .minute .trade .utc, .of Planner.spy .minute .quote .utc]
    (d.feeds allMinutes).Pairwise Feed.Apart ∧
      ((d.withArchive (.loaded .exchanges oneBar none)).take (.ask allMinutes)).value.count
          (barOfLastDay 0) ≤
        ((Load.log oneBar).map (·.2)).count (barOfLastDay 0) := by
  intro d
  have hserving : d.resolver.serving (.all [Planner.spy]) (some .minute) =
      [(Planner.spy, .of Planner.spy .minute .trade .utc),
        (Planner.spy, .of Planner.spy .minute .quote .utc)] :=
    serving_pair rfl (by decide +kernel) (by decide +kernel) (by decide +kernel)
  have hapart : (d.feeds allMinutes).Pairwise Feed.Apart := by
    show (d.feedsOf minutesCall).Pairwise Feed.Apart
    simp only [feedsOf, minutesCall, hserving]
    decide +kernel
  exact ⟨hapart, (count_answer_le d .exchanges oneBar none rfl).2 hapart _⟩

/-- With subscriptions to the trades of a minute and of a second, both are asked for at a minute,
and a bar that was loaded once is returned twice. -/
theorem two_of_one_bar :
    let d := subscribed [.of Planner.spy .second .trade .utc, .of Planner.spy .minute .trade .utc]
    ((Load.log oneBar).map (·.2)).count (barOfLastDay 0) = 1 ∧
      ((d.withArchive (.loaded .exchanges oneBar none)).take (.ask allMinutes)).value.count
        (barOfLastDay 0) = 2 := by
  intro d
  have hserving : d.resolver.serving (.all [Planner.spy]) (some .minute) =
      [(Planner.spy, .of Planner.spy .second .trade .utc),
        (Planner.spy, .of Planner.spy .minute .trade .utc)] :=
    serving_pair rfl (by decide +kernel) (by decide +kernel) (by decide +kernel)
  let desk := d.withArchive (.loaded .exchanges oneBar none)
  have hcall : desk.call? allMinutes = some (.ok minutesCall) := rfl
  have haccepts : desk.planner.Accepts minutesCall := accepts_of_isOne_eq_false rfl rfl
  have hrequests : desk.planner.requestsOf minutesCall =
      [(Planner.spy, .of Planner.spy .second .trade .utc),
        (Planner.spy, .of Planner.spy .minute .trade .utc)].map fun e =>
          d.planner.requestFor (.all [Planner.spy]) minutesCall.reach (some .minute) e.1 e.2 := by
    rw [Planner.requestsOf, Planner.requests_eq, haccepts.1, if_neg Bool.false_ne_true]
    exact congrArg (List.map _) hserving
  rw [value_take_ask hcall haccepts, hrequests]
  decide +kernel

end Desk

end MarketHistory
