import MarketHistory.Proofs.Desk.Multiplicity
import MarketHistory.Proofs.Desk.OneSymbol
import MarketHistory.Proofs.Desk.TradeBars

/-!
# Two ways to bars of trades

Bars of trades can be asked for as data of their type, which come of the best subscription of that
type, and as bars, which come of all subscriptions that serve the symbol. Where the best one is not
among these, or another one goes beyond its sessions, one way shows bars that the other does not.
Apart from that they show the same (`Desk.tradeBars_of_historyOf`).
-/

namespace MarketHistory

/-! ### Subscriptions that give bars of trades -/

namespace Subscription

/-- Bars of trades are among the data of the subscription. -/
def GivesTradeBars (s : Subscription) : Prop :=
  s.tickType = .trade ∧ (s.dataType = .base ∨ s.dataType = .tradeBar)

/-- At a resolution, the subscription leaves out what lies outside the regular session. -/
def RegularOnly (s : Subscription) (hours : TradingHours) (resolution : Resolution) : Prop :=
  s.extendedHours = false ∧ resolution < .daily ∧ hours.isAlwaysOpen = false

/-- The subscription gives all bars of trades that another one gives. -/
def CoversBarsOf (s s' : Subscription) (hours : TradingHours) (resolution : Resolution) : Prop :=
  s'.GivesTradeBars →
    s.GivesTradeBars ∧ (s.RegularOnly hours resolution → s'.RegularOnly hours resolution)

variable {s s' : Subscription} {hours : TradingHours} {resolution : Resolution}

instance : Decidable s.GivesTradeBars := inferInstanceAs (Decidable (_ ∧ (_ ∨ _)))

instance : Decidable (s.RegularOnly hours resolution) := inferInstanceAs (Decidable (_ ∧ _ ∧ _))

instance : Decidable (s.CoversBarsOf s' hours resolution) := inferInstanceAs (Decidable (_ → _))

lemma coversBarsOf_self : s.CoversBarsOf s hours resolution := fun h => ⟨h, id⟩

/-- A bar of trades that is asked for with a subscription is asked for with one that covers it. -/
lemma CoversBarsOf.wants {p : Planner} {symbol : Symbol} {start finish : Instant}
    (h : s.CoversBarsOf s' (p.hours symbol) resolution) (hsymbol : s.symbol = s'.symbol)
    {clocks : ZoneClocks} {loaded : Resolution} {b : TradeBar}
    (hwants : (p.subscriptionRange symbol s' start finish (some resolution)).Wants clocks loaded
      (.tradeBar b)) :
    (p.subscriptionRange symbol s start finish (some resolution)).Wants clocks loaded
      (.tradeBar b) := by
  have hgives : s'.GivesTradeBars := ⟨hwants.tickType.symm, hwants.dataType.imp id Eq.symm⟩
  obtain ⟨⟨htick, hdata⟩, hregular⟩ := h hgives
  refine ⟨hwants.symbol.trans hsymbol.symm, hwants.resolution, hdata.imp id Eq.symm, htick.symm,
    hwants.after, hwants.upTo, fun hdaily hextended => ?_⟩
  cases halways : (p.hours symbol).isAlwaysOpen with
  | true => exact TradingHours.isOpen_of_isAlwaysOpen halways _ _
  | false => exact hwants.session hdaily (hregular ⟨hextended, hdaily, halways⟩).1

end Subscription

/-- There is a request for one type of data of one symbol only with its best subscription of the
type. -/
lemma Planner.exists_of_requestOne? {p : Planner} {symbol : Symbol} {requested : DataType}
    {reach : Reach} {explicit : Option Resolution} {r : Request}
    (h : p.requestOne? symbol requested reach explicit = .ok r) :
    ∃ s, (p.resolver.resolve symbol requested explicit).value.head? = some s ∧
      p.requestFor (.one symbol requested) reach explicit symbol s = r := by
  rw [requestOne?] at h
  split at h
  · cases h
  · cases hfirst : (p.resolver.resolve symbol requested explicit).value.head? with
    | some s =>
      rw [hfirst] at h
      exact ⟨s, rfl, Except.ok.inj h⟩
    | none =>
      rw [hfirst] at h
      cases h

namespace Desk

variable {d : Desk}

/-! ### What requests get -/

/-- An observation is got by a request: it is asked for by the part of the request up to the present,
unless the symbol is the placeholder of a universe. -/
def Gets (d : Desk) (clocks : ZoneClocks) (log : List (Resolution × Observation)) (r : Request)
    (o : Observation) : Prop :=
  d.securities.isUniverse r.symbol = false ∧ o ∈ (r.clip d.now).pick clocks log

/-- What comes back is what the requests get. -/
lemma mem_slices_delivery_iff {clocks : ZoneClocks} {loads : List Load} {failure : Option String}
    {requests : List Request} {o : Observation} :
    o ∈ ((Archive.loaded clocks loads failure).slices (d.delivery requests)).flatMap Slice.data ↔
      ∃ r ∈ requests, d.Gets clocks (Load.log loads) r o := by
  rw [Archive.flatMap_data_slices_loaded, Observation.byEndTime,
    (List.mergeSort_perm _ _).mem_iff, List.mem_flatMap]
  constructor
  · rintro ⟨_, hr, ho⟩
    rw [delivery, List.mem_map] at hr
    obtain ⟨r, hr, rfl⟩ := hr
    obtain ⟨hr, huniverse⟩ := List.mem_filter.mp hr
    exact ⟨r, hr, by simpa using huniverse, ho⟩
  · rintro ⟨r, hr, huniverse, ho⟩
    refine ⟨r.clip d.now, List.mem_map_of_mem (List.mem_filter.mpr ⟨hr, ?_⟩), ho⟩
    rw [huniverse]
    rfl

/-- A bar of trades that is got with a subscription is got with one that covers it. -/
lemma Gets.of_covers {clocks : ZoneClocks} {log : List (Resolution × Observation)} {symbol : Symbol}
    {resolution : Resolution} {start finish : Instant} {s s' : Subscription} {b : TradeBar}
    (hcovers : s.CoversBarsOf s' (d.planner.hours symbol) resolution)
    (hsymbol : s.symbol = s'.symbol)
    (h : d.Gets clocks log (d.planner.subscriptionRange symbol s' start finish (some resolution))
      (.tradeBar b)) :
    d.Gets clocks log (d.planner.subscriptionRange symbol s start finish (some resolution))
      (.tradeBar b) := by
  obtain ⟨huniverse, hpick⟩ := h
  refine ⟨(congrArg d.securities.isUniverse hsymbol).trans huniverse, ?_⟩
  obtain ⟨e, he, hbar⟩ := List.mem_map.mp hpick
  obtain ⟨hlog, hwants⟩ := List.mem_filter.mp he
  have hclipped := of_decide_eq_true hwants
  rw [hbar, Request.wants_clip_iff] at hclipped
  refine List.mem_map.mpr ⟨e, List.mem_filter.mpr ⟨hlog, decide_eq_true ?_⟩, hbar⟩
  rw [hbar, Request.wants_clip_iff]
  exact ⟨hcovers.wants hsymbol hclipped.1, hclipped.2⟩

/-! ### What the two ways return -/

/-- The bars of trades that come back are those that the requests get. -/
lemma mem_project_tradeBar_iff {clocks : ZoneClocks} {loads : List Load} {failure : Option String}
    {requests : List Request} {symbol : Symbol} {o : Observation} :
    o ∈ Slice.project ((Archive.loaded clocks loads failure).slices (d.delivery requests)) symbol
        .tradeBar ↔
      ∃ b : TradeBar, o = .tradeBar b ∧ b.symbol = symbol ∧
        ∃ r ∈ requests, d.Gets clocks (Load.log loads) r o := by
  rw [Slice.project, List.mem_filter, mem_slices_delivery_iff, Bool.and_eq_true,
    decide_eq_true_iff]
  constructor
  · rintro ⟨ho, hsymbol, haccepts⟩
    cases o with
    | tradeBar b => exact ⟨b, rfl, hsymbol, ho⟩
    | _ => cases haccepts
  · rintro ⟨b, rfl, hsymbol, ho⟩
    exact ⟨ho, hsymbol, rfl⟩

lemma mem_filterMap_tradeBar?_iff {os : List Observation} {b : TradeBar} :
    b ∈ os.filterMap Observation.tradeBar? ↔ .tradeBar b ∈ os := by
  rw [List.mem_filterMap]
  constructor
  · rintro ⟨o, ho, hbar⟩
    cases o with
    | tradeBar b' => exact Option.some.inj hbar ▸ ho
    | _ => cases hbar
  · exact fun ho => ⟨_, ho, rfl⟩

/-- Data of one type of one symbol come with the best subscription of the type. -/
lemma exists_of_value_historyOf {symbol : Symbol} {requested : DataType} {window : Window}
    {explicit : Option Resolution} {os : List Observation}
    (h : (d.historyOf symbol requested window explicit).run.value = .ok os) :
    ∃ reach s, d.reach? window = .ok reach ∧
      (d.resolver.resolve symbol requested explicit).value.head? = some s ∧
      (∀ requests, (d.historyOfRequests requests).value =
        .ok (d.archive.slices (d.delivery requests))) ∧
      os = Slice.project (d.archive.slices (d.delivery
        [d.planner.requestFor (.one symbol requested) reach explicit symbol s])) symbol
          requested := by
  rw [value_historyOf, value_requestOf] at h
  cases hreach : d.reach? window with
  | error e =>
    rw [hreach] at h
    cases h
  | ok reach =>
    rw [hreach] at h
    cases hrequest : d.planner.requestOne? symbol requested reach explicit with
    | error e =>
      simp only [Except.bind, hrequest, Except.mapError] at h
      cases h
    | ok r =>
      obtain ⟨s, hfirst, rfl⟩ := Planner.exists_of_requestOne? hrequest
      simp only [Except.bind, hrequest, Except.mapError] at h
      rcases d.value_historyOfRequests_cases with ⟨e, herror⟩ | hslices
      · rw [herror] at h
        cases h
      · rw [hslices] at h
        exact ⟨reach, s, rfl, hfirst, hslices, (Except.ok.inj h).symm⟩

/-- A call for bars of trades over a window is one over a range, and the requests for one type of
data over that window are requests over the range. -/
lemma exists_range_of_reach? (hzone : d.calendar.IgnoresZone) {resolution : Resolution}
    (htick : resolution ≠ .tick) {window : Window} {reach : Reach}
    (hreach : d.reach? window = .ok reach) (symbol : Symbol) (requested : DataType) :
    ∃ start finish,
      d.barCall? symbol window (some resolution) =
        .ok ⟨.all [symbol], .range start finish .none, some resolution⟩ ∧
      ∀ s, d.planner.requestFor (.one symbol requested) reach (some resolution) symbol s =
        d.planner.subscriptionRange symbol s start finish (some resolution) := by
  rw [d.barCall?_some htick]
  cases window with
  | span length =>
    rw [barReach?, hreach]
    · simp only [reach?] at hreach
      cases hstart : spanStart d.now length with
      | error e =>
        rw [hstart] at hreach
        cases hreach
      | ok start =>
        rw [hstart] at hreach
        cases hreach
        exact ⟨start, d.now, rfl, fun _ => rfl⟩
    · intro _ hperiods
      cases hperiods
  | periods count =>
    cases hreach
    let zone := (d.planner.resolver.marketHours symbol).dataTimeZone
    rw [barReach?, d.planner.value_startForPeriods symbol count d.now htick]
    refine ⟨(d.planner.startOfBars symbol count resolution zone d.now).value, d.now, rfl,
      fun s => ?_⟩
    rw [Planner.requestFor, Planner.startFor_bars hzone _ symbol s count d.now zone]
    rfl
  | range start finish =>
    cases hreach
    exact ⟨start, finish, rfl, fun _ => rfl⟩

/-- Bars of trades over a range come with all subscriptions that serve the symbol. -/
lemma value_tradeBars_range {symbol : Symbol} (hcanonical : symbol.canonical = false)
    {window : Window} {resolution : Resolution} {start finish : Instant}
    (hcall : d.barCall? symbol window (some resolution) =
      .ok ⟨.all [symbol], .range start finish .none, some resolution⟩)
    (hslices : ∀ requests, (d.historyOfRequests requests).value =
      .ok (d.archive.slices (d.delivery requests))) :
    (d.tradeBars symbol window (some resolution)).run.value =
      .ok ((Slice.project (d.archive.slices (d.delivery
        ((d.resolver.resolve symbol .base (some resolution)).value.map fun s =>
          d.planner.subscriptionRange symbol s start finish (some resolution)))) symbol
            .tradeBar).filterMap Observation.tradeBar?) := by
  have hrequests : d.planner.requestsOf
      ⟨.all [symbol], .range start finish .none, some resolution⟩ =
      (d.resolver.resolve symbol .base (some resolution)).value.map fun s =>
        d.planner.subscriptionRange symbol s start finish (some resolution) :=
    d.planner.requests_all_singleton hcanonical rfl
  simp only [value_tradeBars, hcall, outcome, Reach.refuses, Bool.false_eq_true, if_false,
    hrequests, hslices]
  rfl

/-- However a desk came about whose calendar ignores the time zone of the data, and at an explicit
resolution other than that of ticks: where a query for data of the type of bars of trades returns
some, a query for bars of trades returns bars as well. The data come with the best subscription of
the type, the bars with all subscriptions that serve the symbol. If one of these covers the best of
the type, all that is returned as data is returned as bars, and if the best of the type covers all
of them, the other way round as well. The best of the type is one of those that serve the symbol
unless it is made up although others fit. -/
theorem tradeBars_of_historyOf (d : Desk) (changes : List Change)
    (hzone : (d.blank.afterAll changes).calendar.IgnoresZone) {symbol : Symbol}
    (hcanonical : symbol.canonical = false) {window : Window} {resolution : Resolution}
    (htick : resolution ≠ .tick) {os : List Observation}
    (hos : ((d.blank.afterAll changes).historyOf symbol .tradeBar window
      (some resolution)).run.value = .ok os) :
    let desk := d.blank.afterAll changes
    let serving := (desk.resolver.resolve symbol .base (some resolution)).value
    let hours := (desk.resolver.marketHours symbol).hours
    ∃ bars best,
      (desk.tradeBars symbol window (some resolution)).run.value = .ok bars ∧
      (desk.resolver.resolve symbol .tradeBar (some resolution)).value.head? = some best ∧
      ((∃ s ∈ serving, s.CoversBarsOf best hours resolution) →
        ∀ o ∈ os, ∃ b ∈ bars, o = .tradeBar b) ∧
      ((∀ s ∈ serving, best.CoversBarsOf s hours resolution) →
        ∀ b ∈ bars, .tradeBar b ∈ os) ∧
      (desk.resolver.fitting symbol .tradeBar (some resolution) ≠ [] ∨
        desk.resolver.fitting symbol .base (some resolution) = [] → best ∈ serving) := by
  intro desk serving hours
  obtain ⟨hcatalog, failure, harchive⟩ := consistent_afterAll d changes
  obtain ⟨reach, best, hreach, hbest, hslices, rfl⟩ := exists_of_value_historyOf hos
  obtain ⟨start, finish, hcall, hrequest⟩ :=
    exists_range_of_reach? hzone htick hreach symbol .tradeBar
  have hbars := value_tradeBars_range hcanonical hcall hslices
  rw [hrequest, harchive]
  rw [harchive] at hbars
  have hserves := List.mem_of_head? hbest
  have hsymbol : ∀ s ∈ serving, s.symbol = best.symbol := fun s hs =>
    (Resolver.symbol_of_mem_resolve hcatalog hs).trans
      (Resolver.symbol_of_mem_resolve hcatalog hserves).symm
  refine ⟨_, best, hbars, hbest, ?_, ?_,
    Resolver.mem_resolve_base (by decide) hserves⟩
  · rintro ⟨s, hs, hcovers⟩ o ho
    obtain ⟨b, rfl, habout, r, hr, hgets⟩ := mem_project_tradeBar_iff.mp ho
    obtain rfl := List.mem_singleton.mp hr
    have hgets' := hgets.of_covers hcovers (hsymbol s hs)
    exact ⟨b, mem_filterMap_tradeBar?_iff.mpr (mem_project_tradeBar_iff.mpr
      ⟨b, rfl, habout, _, List.mem_map_of_mem hs, hgets'⟩), rfl⟩
  · intro hcovers b hb
    obtain ⟨_, heq, habout, r, hr, hgets⟩ :=
      mem_project_tradeBar_iff.mp (mem_filterMap_tradeBar?_iff.mp hb)
    cases heq
    obtain ⟨s, hs, rfl⟩ := List.mem_map.mp hr
    have hgets' := hgets.of_covers (hcovers s hs) (hsymbol s hs).symm
    exact mem_project_tradeBar_iff.mpr ⟨b, rfl, habout, _, List.mem_singleton_self _, hgets'⟩

/-- Without a subscription the best one is made up for either way, and a bar comes back. -/
theorem tradeBars_of_historyOf_unsubscribed :
    let desk := lastMidnight.blank.afterAll [.load .minute [barOfLastDay 0]]
    let window : Window := .periods 5
    desk.calendar.IgnoresZone ∧ Planner.spy.canonical = false ∧ Resolution.minute ≠ .tick ∧
      (desk.historyOf Planner.spy .tradeBar window (some .minute)).run.value =
        .ok [barOfLastDay 0] ∧
      ∃ bars, (desk.tradeBars Planner.spy window (some .minute)).run.value = .ok bars ∧
        ∃ b ∈ bars, barOfLastDay 0 = .tradeBar b := by
  intro desk window
  have hos : (desk.historyOf Planner.spy .tradeBar window (some .minute)).run.value =
      .ok [barOfLastDay 0] := by
    decide +kernel
  have hzone : desk.calendar.IgnoresZone := Calendar.ignoresZone_linear
  obtain ⟨bars, best, hbars, -, hcovered, -, hserves⟩ :=
    tradeBars_of_historyOf lastMidnight _ hzone rfl (by decide) hos
  have hbest := hserves (.inr (by decide +kernel))
  exact ⟨hzone, rfl, by decide, hos, bars, hbars,
    hcovered ⟨best, hbest, Subscription.coversBarsOf_self⟩ _ (List.mem_singleton_self _)⟩

/-- Hours from half past nine to four by the clock of universal time. -/
def daytime : TradingHours :=
  .regular .utc ((TimeOfDay.ofNumbers? 34200 0).getD .midnight)
    ((TimeOfDay.ofNumbers? 57600 0).getD .midnight)

/-- The subscription to the trades of a share by the minute that goes beyond the regular session. -/
def extendedMinutes : Subscription :=
  { Subscription.of Planner.spy .minute .trade .utc with extendedHours := true }

/-- A desk with two shares: of the one the best subscription is limited to the regular session and
another one is not, of the other there are quotes only. A bar of trades from outside the session is
loaded of both. -/
def twoShares : Desk :=
  lastMidnight.blank.afterAll
    [.addSecurityWithHours Planner.spy daytime,
      .subscribe (.of Planner.spy .second .trade .utc), .subscribe extendedMinutes,
      .subscribe (.of Inquiry.qqq .minute .quote .utc),
      .load .minute [Inquiry.barAtMidnight Planner.spy, Inquiry.barAtMidnight Inquiry.qqq]]

/-- The bar of the one share comes back as a bar only, and that of the other as data only. -/
theorem not_tradeBars_of_historyOf_twoShares :
    let window : Window := .range .first twoShares.now
    let observations (symbol : Symbol) :=
      (twoShares.historyOf symbol .tradeBar window (some .minute)).run.value
    let bars (symbol : Symbol) :=
      (twoShares.tradeBars symbol window (some .minute)).run.value.map
        (List.map Observation.tradeBar)
    twoShares.calendar = .linear ∧ twoShares.archive.failure = none ∧
      Planner.spy.canonical = false ∧ Inquiry.qqq.canonical = false ∧
      (observations Planner.spy = .ok [] ∧
        bars Planner.spy = .ok [Inquiry.barAtMidnight Planner.spy]) ∧
      observations Inquiry.qqq = .ok [Inquiry.barAtMidnight Inquiry.qqq] ∧
        bars Inquiry.qqq = .ok [] := by
  intro window observations bars
  have hresolve (requested : DataType)
      (hkept : ([.of Planner.spy .second .trade .utc, extendedMinutes].filter fun s =>
        Resolver.takes requested s.dataType &&
          !Resolver.isExcludedQuote Planner.spy (some .minute) s) =
            [.of Planner.spy .second .trade .utc, extendedMinutes]) :
      (twoShares.resolver.resolve Planner.spy requested (some .minute)).value =
        [.of Planner.spy .second .trade .utc, extendedMinutes] :=
    value_resolve_pair (by decide +kernel) (by decide +kernel) hkept
  refine ⟨rfl, rfl, rfl, rfl, ⟨?_, ?_⟩, by decide +kernel, by decide +kernel⟩
  · have hrequest := congrArg List.head? (hresolve .tradeBar (by decide +kernel))
    simp only [observations, value_historyOf, value_requestOf, window, reach?, Except.bind,
      Planner.requestOne?, Reach.refuses, Bool.false_eq_true, if_false]
    rw [show twoShares.planner.resolver = twoShares.resolver from rfl, hrequest]
    decide +kernel
  · have hcall : twoShares.barCall? Planner.spy window (some .minute) =
        .ok ⟨.all [Planner.spy], .range .first twoShares.now .none, some .minute⟩ := rfl
    simp only [bars]
    rw [value_tradeBars_range rfl hcall (value_historyOfRequests rfl rfl),
      hresolve .base (by decide +kernel)]
    decide +kernel

end Desk

end MarketHistory
