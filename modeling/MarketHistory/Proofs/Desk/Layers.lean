import MarketHistory.Proofs.Desk.SecondLook
import MarketHistory.Proofs.Subscription.Serving

/-!
# Layers of settings

A setting comes from the call, from a subscription or from the universe. Where the call or the
subscriptions of a symbol say all that its requests need, the universe has no part in them; and what
a call asks for in place of the options of subscriptions changes these options and nothing else
(`requests_layers`).
-/

namespace MarketHistory

/-! ### Other defaults -/

/-- The resolver in a universe with other defaults. -/
def Resolver.withDefaults (r : Resolver) (defaults : UniverseSettings) : Resolver :=
  { r with defaults }

/-- The planner in a universe with other defaults. -/
def Planner.withDefaults (p : Planner) (defaults : UniverseSettings) : Planner :=
  { p with resolver := p.resolver.withDefaults defaults }

/-- The data type that a call requests. -/
def Scope.requested : Scope → DataType
  | all _           => .base
  | one _ requested | each _ requested => requested

/-- The requests for a symbol are settled without the universe: a subscription fits, and the
resolution is explicit or that of a known security to which the user subscribed. -/
structure Resolver.Settled (r : Resolver) (symbol : Symbol) (requested : DataType)
    (explicit : Option Resolution) : Prop where
  fits     : ∃ s ∈ r.catalog.subscriptionsOf symbol, s.Fits symbol requested explicit
  resolved : explicit.isSome = true ∨ r.securities.contains symbol = true ∧
    ∃ s ∈ r.catalog.subscriptionsOf symbol, s.isInternal = false

namespace Resolver.Settled

variable {r : Resolver} {symbol : Symbol} {requested : DataType} {explicit : Option Resolution}
  (h : r.Settled symbol requested explicit) (defaults : UniverseSettings)

include h

lemma effectiveResolution_withDefaults :
    (r.withDefaults defaults).effectiveResolution symbol explicit =
      r.effectiveResolution symbol explicit := by
  obtain hexplicit | ⟨hknown, s, hs, hinternal⟩ := h.resolved
  · obtain ⟨resolution, rfl⟩ := Option.isSome_iff_exists.mp hexplicit
    rfl
  · have huser : s ∈ r.catalog.userSubscriptionsOf symbol :=
      List.mem_filter.mpr ⟨hs, by rw [hinternal]; rfl⟩
    obtain ⟨first, rest, hfirst⟩ := List.exists_cons_of_ne_nil (List.ne_nil_of_mem huser)
    obtain ⟨finest, -, hfinest, -⟩ :=
      Resolution.exists_finest?_eq first.resolution (rest.map (·.resolution))
    have hsubscribed : r.catalog.finestResolution? symbol = some finest := by
      rw [Catalog.finestResolution?, hfirst]
      exact hfinest
    simp only [effectiveResolution, withDefaults, hknown, if_true, hsubscribed]
    cases explicit <;> rfl

lemma resolve_withDefaults :
    (r.withDefaults defaults).resolve symbol requested explicit =
      r.resolve symbol requested explicit := by
  obtain ⟨s, hs, hfits⟩ := h.fits
  have hfitting : r.fitting symbol requested explicit ≠ [] :=
    List.ne_nil_of_mem (List.mem_filter.mpr ⟨hs, decide_eq_true hfits⟩)
  have hfitting' : (r.withDefaults defaults).fitting symbol requested explicit ≠ [] := hfitting
  rw [resolve_of_fitting _ _ _ _ hfitting, resolve_of_fitting _ _ _ _ hfitting']
  rfl

end Resolver.Settled

/-! ### The requests for one symbol -/

/-- Of what is found for each symbol, what belongs to one symbol is what was found for it. -/
lemma filter_map_pair_congr (found found' : Symbol → List Subscription) {symbol : Symbol}
    (h : found symbol = found' symbol) (x : Symbol) :
    ((found x).map fun s => (x, s)).filter (·.1 = symbol) =
      ((found' x).map fun s => (x, s)).filter (·.1 = symbol) := by
  by_cases hx : x = symbol
  · rw [hx, h]
  · have hnone : ∀ l : List Subscription,
        (l.map fun s => (x, s)).filter (·.1 = symbol) = [] :=
      fun l => List.filter_eq_nil_iff.mpr (by simp [hx])
    rw [hnone, hnone]

/-- In a universe with other defaults the same subscriptions serve a call for a symbol. -/
lemma Resolver.filter_serving_withDefaults {r : Resolver} {symbol : Symbol} {scope : Scope}
    {explicit : Option Resolution} (h : r.Settled symbol scope.requested explicit)
    (defaults : UniverseSettings) :
    ((r.withDefaults defaults).serving scope explicit).filter (·.1 = symbol) =
      (r.serving scope explicit).filter (·.1 = symbol) := by
  have hfound := congrArg Traced.value (h.resolve_withDefaults defaults)
  have hbest := congrArg (·.head?.toList) hfound
  let all (r : Resolver) (x : Symbol) := (r.resolve x scope.requested explicit).value
  let best (r : Resolver) (x : Symbol) := (all r x).head?.toList
  cases scope with
  | all symbols =>
    simp only [serving, List.filter_flatMap]
    exact congrArg (List.flatMap · _) (funext (filter_map_pair_congr (all _) (all r) hfound))
  | one x requested => exact filter_map_pair_congr (best _) (best r) hbest x
  | each symbols requested =>
    simp only [serving, List.filter_flatMap]
    exact congrArg (List.flatMap · _) (funext (filter_map_pair_congr (best _) (best r) hbest))

namespace Planner

variable {p : Planner} {symbol : Symbol} {scope : Scope} {explicit : Option Resolution}

lemma request_withDefaults (p : Planner) (defaults : UniverseSettings) (s : Subscription)
    (start finish : Instant) (hours : TradingHours) (explicit : Option Resolution)
    (effective : Resolution) (overrides : Overrides) :
    (p.withDefaults defaults).request s start finish hours explicit effective overrides =
      p.request s start finish hours explicit effective overrides := by
  -- the subscription and the call come before the universe
  obtain ⟨fillForward, extendedHours⟩ := overrides
  cases fillForward <;> cases extendedHours <;> rfl

lemma requestFor_withDefaults (h : p.resolver.Settled symbol scope.requested explicit)
    (defaults : UniverseSettings) (reach : Reach) (s : Subscription) :
    (p.withDefaults defaults).requestFor scope reach explicit symbol s =
      p.requestFor scope reach explicit symbol s := by
  have heffective :
      (p.withDefaults defaults).resolver.effectiveResolution symbol explicit =
        p.resolver.effectiveResolution symbol explicit :=
    h.effectiveResolution_withDefaults defaults
  have hzone : (p.withDefaults defaults).countingZone scope explicit symbol s =
      p.countingZone scope explicit symbol s := by
    cases scope with
    | all symbols =>
      have hresolve : (p.withDefaults defaults).resolver.resolve symbol .base explicit =
        p.resolver.resolve symbol .base explicit := h.resolve_withDefaults defaults
      simp only [countingZone, hresolve]
    | _ => rfl
  have himposed : (p.withDefaults defaults).imposed? scope reach explicit symbol =
      p.imposed? scope reach explicit symbol := by
    cases scope <;> cases reach <;> simp only [imposed?, heffective]
  have hstart : (p.withDefaults defaults).startFor scope reach explicit symbol s =
      p.startFor scope reach explicit symbol s := by
    cases reach with
    | range => rfl
    | bars periods finish =>
      simp only [startFor, heffective, hzone]
      rfl
  rw [requestFor, hstart, himposed, heffective, request_withDefaults]
  rfl

/-- The requests of a call for a symbol are those for the subscriptions that serve it. -/
lemma filter_requests (h : p.resolver.catalog.Filed) (reach : Reach) :
    (p.requests scope reach explicit).filter (·.symbol = symbol) =
      if reach.refuses explicit then []
      else ((p.resolver.serving scope explicit).filter (·.1 = symbol)).map fun e =>
        p.requestFor scope reach explicit symbol e.2 := by
  rw [requests_eq]
  split
  · rfl
  · have hfilter : (p.resolver.serving scope explicit).filter
        ((·.symbol = symbol) ∘ fun e => p.requestFor scope reach explicit e.1 e.2) =
          (p.resolver.serving scope explicit).filter (·.1 = symbol) := by
      refine List.filter_congr fun e he => ?_
      rw [← Resolver.symbol_of_mem_serving h he]
      rfl
    rw [List.filter_map, hfilter]
    refine List.map_congr_left fun e he => ?_
    rw [of_decide_eq_true (List.mem_filter.mp he).2]

lemma filter_requests_withDefaults (hcatalog : p.resolver.catalog.Filed)
    (h : p.resolver.Settled symbol scope.requested explicit) (defaults : UniverseSettings)
    (reach : Reach) :
    ((p.withDefaults defaults).requests scope reach explicit).filter (·.symbol = symbol) =
      (p.requests scope reach explicit).filter (·.symbol = symbol) := by
  have hcatalog' : (p.withDefaults defaults).resolver.catalog.Filed := hcatalog
  have hserving := Resolver.filter_serving_withDefaults h defaults
  rw [filter_requests hcatalog, filter_requests hcatalog']
  simp only [requestFor_withDefaults h]
  rw [← hserving]
  rfl

end Planner

/-! ### Options of a call -/

/-- A request with what a call asks for in place of the options of the subscription; if it asks for
filling, gaps are filled at the effective resolution. -/
def Request.overridden (r : Request) (overrides : Overrides) (effective : Resolution) : Request :=
  { r with
    fillForward   := match overrides.fillForward with
      | some true  => some effective
      | some false => none
      | none       => r.fillForward
    extendedHours := overrides.extendedHours.getD r.extendedHours }

/-- Two requests differ at most in the filling of gaps and in the hours. -/
def Request.EqButOptions (r r' : Request) : Prop :=
  { r with fillForward := r'.fillForward, extendedHours := r'.extendedHours } = r'

namespace Planner

lemma request_overrides (p : Planner) (s : Subscription) (start finish : Instant)
    (hours : TradingHours) (explicit : Option Resolution) (effective : Resolution)
    (overrides : Overrides) :
    p.request s start finish hours explicit effective overrides =
      (p.request s start finish hours explicit effective .none).overridden overrides effective := by
  obtain ⟨fillForward, extendedHours⟩ := overrides
  cases fillForward with
  | none => cases extendedHours <;> rfl
  | some fills => cases fills <;> cases extendedHours <;> rfl

lemma requests_overrides {p : Planner} (h : p.resolver.catalog.Filed) (symbols : List Symbol)
    (start finish : Instant) (explicit : Option Resolution) (overrides : Overrides) :
    p.requests (.all symbols) (.range start finish overrides) explicit =
      (p.requests (.all symbols) (.range start finish .none) explicit).map fun r =>
        r.overridden overrides (p.resolver.effectiveResolution r.symbol explicit) := by
  rw [requests_range, requests_range, List.map_map]
  refine List.map_congr_left fun e he => ?_
  rw [Function.comp_apply, requestFor, request_overrides]
  show _ = Request.overridden _ _ (p.resolver.effectiveResolution e.2.symbol explicit)
  rw [Resolver.symbol_of_mem_serving h he]
  rfl

end Planner

/-- However a desk came about. If the requests of a call for a symbol are settled without the
universe, they are the same whatever the defaults of the universe. And for any symbols and range, a
call makes as many requests in the same order whatever it asks for in place of the options of
subscriptions: asked for filling, it fills gaps at the effective resolution of the symbol; asked for
none, it fills no gaps; asked for hours, it has these; and where it does not ask, the requests have
what they have without asking. Everything else in them is the same. -/
theorem Desk.requests_layers (d : Desk) (changes : List Change) :
    let p := (d.blank.afterAll changes).planner
    (∀ scope reach explicit symbol, p.resolver.Settled symbol scope.requested explicit →
      ∀ defaults defaults' : UniverseSettings,
        ((p.withDefaults defaults).requests scope reach explicit).filter (·.symbol = symbol) =
        ((p.withDefaults defaults').requests scope reach explicit).filter (·.symbol = symbol)) ∧
      ∀ symbols start finish explicit,
        (∀ overrides, p.requests (.all symbols) (.range start finish overrides) explicit =
          (p.requests (.all symbols) (.range start finish .none) explicit).map fun r =>
            r.overridden overrides (p.resolver.effectiveResolution r.symbol explicit)) ∧
        ∀ overrides overrides', List.Forall₂ Request.EqButOptions
          (p.requests (.all symbols) (.range start finish overrides) explicit)
          (p.requests (.all symbols) (.range start finish overrides') explicit) := by
  intro p
  have hcatalog : p.resolver.catalog.Filed := (d.consistent_afterAll changes).catalog
  refine ⟨fun scope reach explicit symbol hsettled defaults defaults' => ?_,
    fun symbols start finish explicit => ?_⟩
  · rw [Planner.filter_requests_withDefaults hcatalog hsettled,
      Planner.filter_requests_withDefaults hcatalog hsettled]
  · have hoverrides := Planner.requests_overrides hcatalog symbols start finish explicit
    refine ⟨hoverrides, fun overrides overrides' => ?_⟩
    rw [hoverrides overrides, hoverrides overrides', List.forall₂_map_left_iff,
      List.forall₂_map_right_iff, List.forall₂_same]
    exact fun _ _ => rfl

/-- A share that is known and subscribed to is requested by the minute, whatever the universe. Over a
range, a call that asks for no filling and for more than the regular session changes just that. -/
theorem Desk.requests_layers_of_share :
    let changes : List Change :=
      [.addSecurity Planner.spy, .subscribe (.of Planner.spy .minute .trade .utc)]
    let p := (lastMidnight.blank.afterAll changes).planner
    let requests (defaults : UniverseSettings) : List Request :=
      ((p.withDefaults defaults).requests (.all [Planner.spy]) (.bars 5 Planner.afternoon)
        none).filter (·.symbol = Planner.spy)
    let ranges (overrides : Overrides) : List Request :=
      p.requests (.all [Planner.spy]) (.range .first Planner.afternoon overrides) none
    let asked : Overrides := ⟨some false, some true⟩
    p.resolver.Settled Planner.spy .base none ∧
      (requests .usual).map (·.resolution) = [.minute] ∧
      (∀ defaults, requests defaults = requests .usual) ∧
      (ranges .none).map (fun r => (r.fillForward, r.extendedHours)) = [(some .minute, false)] ∧
      (ranges asked).map (fun r => (r.fillForward, r.extendedHours)) = [(none, true)] ∧
      ranges asked = (ranges .none).map (fun r =>
        r.overridden asked (p.resolver.effectiveResolution r.symbol none)) ∧
      List.Forall₂ Request.EqButOptions (ranges asked) (ranges .none) := by
  intro changes p requests ranges asked
  have hmem : Subscription.of Planner.spy .minute .trade .utc ∈
      p.resolver.catalog.subscriptionsOf Planner.spy := by decide +kernel
  have hsettled : p.resolver.Settled Planner.spy .base none :=
    ⟨⟨_, hmem, by decide⟩, .inr ⟨by decide +kernel, _, hmem, rfl⟩⟩
  obtain ⟨hdefaults, hoverrides⟩ := requests_layers lastMidnight changes
  obtain ⟨hoverridden, hequal⟩ := hoverrides [Planner.spy] .first Planner.afternoon none
  refine ⟨hsettled, by decide +kernel, fun defaults => ?_, by decide +kernel, by decide +kernel,
    hoverridden asked, hequal asked .none⟩
  exact hdefaults (.all [Planner.spy]) _ none Planner.spy hsettled defaults .usual

end MarketHistory
