import MarketHistory.Proofs.Desk.Answers
import MarketHistory.Proofs.Desk.Calls
import MarketHistory.Proofs.Desk.Clamping
import MarketHistory.Proofs.Desk.Reached
import MarketHistory.Proofs.Desk.Submitted

/-!
# Requests for canonical symbols

A canonical symbol stands for a chain of contracts and has no data of its own. Calls for data of
several symbols leave canonical symbols out, and nothing is made up for them; but a call for one
type of data of one symbol takes what is subscribed. Canonical symbols are requested on this way
and on no other (`canonical_requests_iff`).
-/

namespace MarketHistory

/-- A canonical symbol is served by what is subscribed; nothing is made up for it. -/
lemma Resolver.value_resolve_of_canonical (r : Resolver) {symbol : Symbol}
    (h : symbol.canonical = true) (requested : DataType) (explicit : Option Resolution) :
    (r.resolve symbol requested explicit).value = r.registered symbol requested explicit := by
  simp only [resolve]
  split
  next hnone =>
    have hdefaults : r.catalog.defaultsOf symbol.securityType
        (r.effectiveResolution symbol explicit) symbol.canonical = [] := by
      rw [h]
      rfl
    rw [hnone]
    show r.synthesized symbol requested explicit = []
    simp only [synthesized, hdefaults, List.filter_nil, List.map_nil]
  next => rfl

/-- A canonical symbol is served only in a call for one type of its data. -/
lemma Resolver.scope_of_mem_serving_of_canonical {r : Resolver} {scope : Scope}
    {explicit : Option Resolution} {e : Symbol × Subscription}
    (he : e ∈ r.serving scope explicit) (h : e.1.canonical = true) :
    ∃ requested, scope = .one e.1 requested ∧
      e.2 ∈ (r.resolve e.1 requested explicit).value := by
  have hkept : ∀ {symbol : Symbol} {symbols : List Symbol},
      symbol ∈ symbols.filter (!·.canonical) → symbol.canonical = false := by
    intro symbol symbols hsymbol
    exact Bool.not_eq_true' _ ▸ (List.mem_filter.mp hsymbol).2
  cases scope with
  | all symbols =>
    obtain ⟨symbol, hsymbol, he⟩ := List.mem_flatMap.mp he
    obtain ⟨s, -, rfl⟩ := List.mem_map.mp he
    exact absurd ((hkept hsymbol).symm.trans h) Bool.false_ne_true
  | one symbol requested =>
    obtain ⟨s, hs, rfl⟩ := List.mem_map.mp he
    exact ⟨requested, rfl, List.mem_of_head? (Option.mem_toList.mp hs)⟩
  | each symbols requested =>
    obtain ⟨symbol, hsymbol, he⟩ := List.mem_flatMap.mp he
    obtain ⟨s, -, rfl⟩ := List.mem_map.mp he
    exact absurd ((hkept hsymbol).symm.trans h) Bool.false_ne_true

/-! ### Calls -/

namespace Planner

/-- A call makes a request for a canonical symbol exactly if it is a call for one type of data of
that symbol, is not refused, and finds a subscription. -/
lemma exists_request_iff_of_canonical {p : Planner} (h : p.resolver.catalog.Filed)
    (scope : Scope) (reach : Reach) (explicit : Option Resolution) {symbol : Symbol}
    (hcanonical : symbol.canonical = true) :
    (∃ r ∈ p.requests scope reach explicit, r.symbol = symbol) ↔
      reach.refuses explicit = false ∧ ∃ requested, scope = .one symbol requested ∧
        p.resolver.registered symbol requested explicit ≠ [] := by
  rw [requests_eq]
  cases hrefuses : reach.refuses explicit with
  | true => simp
  | false =>
    simp only [Bool.false_eq_true, if_false, true_and]
    constructor
    · rintro ⟨r, hr, rfl⟩
      obtain ⟨e, he, rfl⟩ := List.mem_map.mp hr
      have hsymbol : e.2.symbol = e.1 := Resolver.symbol_of_mem_serving h he
      change e.2.symbol.canonical = true at hcanonical
      rw [hsymbol] at hcanonical
      obtain ⟨requested, hscope, hs⟩ :=
        Resolver.scope_of_mem_serving_of_canonical he hcanonical
      refine ⟨requested, ?_, ?_⟩
      · show scope = .one e.2.symbol requested
        rw [hsymbol, hscope]
      · show p.resolver.registered e.2.symbol requested explicit ≠ []
        rw [hsymbol, ← p.resolver.value_resolve_of_canonical hcanonical]
        exact List.ne_nil_of_mem hs
    · rintro ⟨requested, rfl, hfound⟩
      obtain ⟨s, rest, hresolve⟩ := List.exists_cons_of_ne_nil hfound
      rw [← p.resolver.value_resolve_of_canonical hcanonical] at hresolve
      refine ⟨p.requestFor (.one symbol requested) reach explicit symbol s, ?_, ?_⟩
      · apply List.mem_map.mpr
        refine ⟨(symbol, s), ?_, rfl⟩
        simp only [Resolver.serving, hresolve]
        exact List.mem_singleton.mpr rfl
      · have hs : s ∈ (p.resolver.resolve symbol requested explicit).value := by
          rw [hresolve]
          exact List.mem_cons_self
        exact Resolver.symbol_of_mem_resolve h hs

/-- Calls for several symbols make no request for a canonical symbol. -/
lemma not_canonical_of_mem_requests {p : Planner} (h : p.resolver.catalog.Filed) {scope : Scope}
    (hscope : scope.isOne = false) {reach : Reach} {explicit : Option Resolution} {r : Request}
    (hr : r ∈ p.requests scope reach explicit) : r.symbol.canonical = false := by
  cases hcanonical : r.symbol.canonical with
  | false => rfl
  | true =>
    obtain ⟨-, requested, rfl, -⟩ :=
      (exists_request_iff_of_canonical h scope reach explicit hcanonical).mp ⟨r, hr, rfl⟩
    cases hscope

end Planner

/-! ### Last known prices -/

namespace Desk

variable {d : Desk}

/-- Last known prices are not looked for with requests for canonical symbols. -/
lemma not_canonical_of_mem_barRequests (h : d.catalog.Filed) {symbol : Symbol} {periods : Nat}
    {resolution : Resolution} {r : Request} (hr : r ∈ d.barRequests symbol periods resolution) :
    r.unfilled.symbol.canonical = false := by
  show r.symbol.canonical = false
  rw [barRequests, Planner.requestsOf] at hr
  exact Planner.not_canonical_of_mem_requests h rfl hr

/-! ### Questions -/

/-- A question that is answered by a call for several symbols submits no requests for canonical
symbols. -/
lemma submits_of_call? (h : d.catalog.Filed) {q : Question} {c : Except InvalidRequest Call}
    (hc : d.call? q = some c) (hq : q.isOfType = false) :
    (d.answer q).run.Submits (·.symbol.canonical = false) := by
  refine (answer_cases hc).submits fun call hcall r hr => ?_
  subst hcall
  exact Planner.not_canonical_of_mem_requests h ((scope_explicit_of_call? hc).1.trans hq) hr

/-- The symbol, if it is canonical, is requested for the question: by the caller, who gives the
requests, or as the symbol of one type of data to which there is a subscription. -/
def RequestsFor (d : Desk) (q : Question) (symbol : Symbol) : Prop :=
  match q with
  | .requests requests                        => ∃ r ∈ requests, r.symbol = symbol
  | .ofType symbol' requested window explicit =>
    symbol' = symbol ∧ d.resolver.registered symbol requested explicit ≠ [] ∧
      ∃ reach, d.reach? window = .ok reach ∧ reach.refuses explicit = false
  | _                                         => False

section Submitted

variable (h : d.catalog.Filed) {symbol : Symbol} (hcanonical : symbol.canonical = true)

include h hcanonical

/-- A question about one type of data submits a request for a canonical symbol exactly if it is
about that symbol, is accepted and finds a subscription. -/
lemma exists_submitted_ofType_iff (symbol' : Symbol) (requested : DataType) (window : Window)
    (explicit : Option Resolution) :
    (∃ requests ∈ (d.answer (.ofType symbol' requested window explicit)).run.submissions,
      ∃ r ∈ requests, r.symbol = symbol) ↔
      d.connected = true ∧ d.RequestsFor (.ofType symbol' requested window explicit) symbol := by
  rw [(answer_cases rfl).exists_submitted_iff, RequestsFor]
  refine and_congr_right fun _ => ?_
  constructor
  · rintro ⟨call, hcall, hrequest⟩
    cases hreach : d.reach? window with
    | error e =>
      rw [hreach] at hcall
      cases hcall
    | ok reach =>
      rw [hreach] at hcall
      cases hcall
      obtain ⟨haccepted, requested', hscope, hfound⟩ :=
        (Planner.exists_request_iff_of_canonical h _ _ _ hcanonical).mp hrequest
      cases hscope
      exact ⟨rfl, hfound, reach, rfl, haccepted⟩
  · rintro ⟨rfl, hfound, reach, hreach, haccepted⟩
    rw [hreach]
    refine ⟨_, rfl, ?_⟩
    exact (Planner.exists_request_iff_of_canonical h _ _ _ hcanonical).mpr
      ⟨haccepted, requested, rfl, hfound⟩

lemma exists_submitted_answer_iff (q : Question) :
    (∃ requests ∈ (d.answer q).run.submissions, ∃ r ∈ requests, r.symbol = symbol) ↔
      d.connected = true ∧ d.RequestsFor q symbol := by
  have hnone (hsubmits : (d.answer q).run.Submits (·.symbol.canonical = false)) :
      ¬∃ requests ∈ (d.answer q).run.submissions, ∃ r ∈ requests, r.symbol = symbol := by
    rintro ⟨requests, hrequests, r, hr, rfl⟩
    exact Bool.false_ne_true ((hsubmits.all requests hrequests r hr).symm.trans hcanonical)
  cases q with
  | requests requests =>
    have hsubmissions : (d.answer (.requests requests)).run.submissions =
        (d.historyOfRequests requests).submissions := ((asks_historyRequests _).map _).submissions
    rw [hsubmissions, submissions_historyOfRequests, RequestsFor]
    cases d.connected <;> simp
  | span symbols length explicit =>
    exact iff_of_false (hnone (submits_of_call? h rfl rfl)) And.right
  | periods symbols count explicit =>
    exact iff_of_false (hnone (submits_of_call? h rfl rfl)) And.right
  | range symbols start finish explicit overrides =>
    exact iff_of_false (hnone (submits_of_call? h rfl rfl)) And.right
  | ofType symbol' requested window explicit => exact exists_submitted_ofType_iff h hcanonical ..
  | typed symbols requested window explicit =>
    exact iff_of_false (hnone (submits_of_call? h rfl rfl)) And.right
  | tradeBars symbol' window explicit =>
    exact iff_of_false (hnone (submits_of_call? h rfl rfl)) And.right
  | warmUp => exact iff_of_false (hnone (submits_of_call? h rfl rfl)) And.right
  | lastPrices symbol' =>
    refine iff_of_false (hnone (submits_answer_lastPrices ?_)) And.right
    exact fun _ _ => not_canonical_of_mem_barRequests h
  | lastPrice symbol' =>
    refine iff_of_false (hnone (submits_answer_lastPrice ?_)) And.right
    exact fun _ _ => not_canonical_of_mem_barRequests h

end Submitted

/-- The requests for the warm-up are for no canonical symbols. -/
lemma not_canonical_of_mem_warmUpRequests (h : d.catalog.Filed) {requests : List Request}
    (hvalue : d.warmUpRequests.run.value = .ok requests) {r : Request} (hr : r ∈ requests) :
    r.symbol.canonical = false := by
  obtain ⟨call, hcall, -, rfl⟩ := exists_call_of_warmUpRequests hvalue
  have hone : call.scope.isOne = false :=
    (scope_explicit_of_call? (q := .warmUp) (congrArg some hcall)).1
  exact Planner.not_canonical_of_mem_requests h hone hr

/-- What reaches the archive for a symbol is what is submitted for it, unless it is the placeholder
of a universe. -/
lemma exists_delivered_iff (requests : List Request) (symbol : Symbol) :
    (∃ r ∈ d.delivery requests, r.symbol = symbol) ↔
      d.securities.isUniverse symbol = false ∧ ∃ r ∈ requests, r.symbol = symbol := by
  have hsymbol : ∀ r : Request, (r.clip d.now).symbol = r.symbol := by
    intro r
    rw [r.eqUpToRange_clip d.now]
    rfl
  simp only [delivery, List.mem_map, List.mem_filter, Bool.not_eq_true']
  constructor
  · rintro ⟨_, ⟨r, ⟨hr, huniverse⟩, rfl⟩, rfl⟩
    rw [hsymbol]
    exact ⟨huniverse, r, hr, rfl⟩
  · rintro ⟨huniverse, r, hr, rfl⟩
    exact ⟨_, ⟨r, ⟨hr, huniverse⟩, rfl⟩, hsymbol r⟩

/-- What the archive receives for a symbol on the way to an answer. -/
lemma exists_recorded_answer_iff (hfiled : d.archive.Filed) (q : Question) (symbol : Symbol) :
    (∃ batch ∈ (d.answer q).run.batches, ∃ r ∈ batch, r.symbol = symbol) ↔
      d.securities.isUniverse symbol = false ∧
        ∃ requests ∈ (d.answer q).run.submissions, ∃ r ∈ requests, r.symbol = symbol := by
  have hbatches : (d.answer q).run.batches = (d.answer q).run.submissions.map d.delivery :=
    (serves_answer hfiled q).batches
  rw [hbatches]
  constructor
  · rintro ⟨_, hbatch, hdelivered⟩
    obtain ⟨requests, hrequests, rfl⟩ := List.mem_map.mp hbatch
    obtain ⟨huniverse, hsubmitted⟩ := (exists_delivered_iff requests symbol).mp hdelivered
    exact ⟨huniverse, requests, hrequests, hsubmitted⟩
  · rintro ⟨huniverse, requests, hrequests, hsubmitted⟩
    exact ⟨d.delivery requests, List.mem_map_of_mem hrequests,
      (exists_delivered_iff requests symbol).mpr ⟨huniverse, hsubmitted⟩⟩

/-- At every desk that comes about by changes, whatever the catalog: the planner makes a request for
a canonical symbol exactly if it is called for one type of data of that symbol, does not refuse the
call and finds a subscription of that type; none is made for the warm-up; and apart from requests
that are given by the caller, such a request reaches the archive exactly on questions about one type
of data of a canonical symbol to which there is a subscription, as long as queries reach the archive
and the symbol is not the placeholder of a universe. -/
theorem canonical_requests_iff (d : Desk) (changes : List Change) :
    let desk := d.blank.afterAll changes
    (∀ scope reach explicit,
      (∃ r ∈ desk.planner.requests scope reach explicit, r.symbol.canonical = true) ↔
        reach.refuses explicit = false ∧ ∃ symbol requested, scope = .one symbol requested ∧
          symbol.canonical = true ∧ desk.resolver.registered symbol requested explicit ≠ []) ∧
    (∀ requests, desk.warmUpRequests.run.value = .ok requests →
      ∀ r ∈ requests, r.symbol.canonical = false) ∧
    ∀ q, (∃ batch ∈ (desk.answer q).run.batches, ∃ r ∈ batch, r.symbol.canonical = true) ↔
      desk.connected = true ∧ ∃ symbol, symbol.canonical = true ∧
        desk.securities.isUniverse symbol = false ∧ desk.RequestsFor q symbol := by
  intro desk
  have hdesk := consistent_afterAll d changes
  obtain ⟨failure, harchive⟩ := hdesk.archive
  have hfiled : desk.archive.Filed := by
    rw [harchive]
    exact Archive.filed_loaded _ _ failure
  refine ⟨fun scope reach explicit => ?_, fun requests hvalue r hr => ?_, fun q => ?_⟩
  · constructor
    · rintro ⟨r, hr, hcanonical⟩
      obtain ⟨haccepted, requested, hscope, hfound⟩ :=
        (Planner.exists_request_iff_of_canonical hdesk.catalog _ _ _ hcanonical).mp ⟨r, hr, rfl⟩
      exact ⟨haccepted, r.symbol, requested, hscope, hcanonical, hfound⟩
    · rintro ⟨haccepted, symbol, requested, hscope, hcanonical, hfound⟩
      obtain ⟨r, hr, rfl⟩ :=
        (Planner.exists_request_iff_of_canonical (p := desk.planner) hdesk.catalog _ _ _
          hcanonical).mpr ⟨haccepted, requested, hscope, hfound⟩
      exact ⟨r, hr, hcanonical⟩
  · exact not_canonical_of_mem_warmUpRequests hdesk.catalog hvalue hr
  · constructor
    · rintro ⟨batch, hbatch, r, hr, hcanonical⟩
      obtain ⟨huniverse, hsubmitted⟩ :=
        (exists_recorded_answer_iff hfiled q r.symbol).mp ⟨batch, hbatch, r, hr, rfl⟩
      obtain ⟨hconnected, hfor⟩ :=
        (exists_submitted_answer_iff hdesk.catalog hcanonical q).mp hsubmitted
      exact ⟨hconnected, r.symbol, hcanonical, huniverse, hfor⟩
    · rintro ⟨hconnected, symbol, hcanonical, huniverse, hfor⟩
      have hsubmitted :=
        (exists_submitted_answer_iff hdesk.catalog hcanonical q).mpr ⟨hconnected, hfor⟩
      obtain ⟨batch, hbatch, r, hr, rfl⟩ :=
        (exists_recorded_answer_iff hfiled q symbol).mpr ⟨huniverse, hsubmitted⟩
      exact ⟨batch, hbatch, r, hr, hcanonical⟩

/-! ### A chain of contracts with a subscription -/

/-- The symbol of a chain of futures. -/
def chain : Symbol := ⟨"ES", .future, "cme", true⟩

/-- Once there is a subscription to the chain, a question about its bars of trades leads to a
request for it. -/
theorem canonical_request_for_chain :
    let desk := inAfternoon.blank.afterAll [.subscribe (.of chain .minute .trade .utc)]
    let asked := (desk.answer (.ofType chain .tradeBar (.range .first desk.now) none)).run
    ∃ batch ∈ asked.batches, ∃ r ∈ batch, r.symbol.canonical = true := by
  decide +kernel

end Desk

end MarketHistory
