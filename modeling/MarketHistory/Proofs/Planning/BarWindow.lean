import MarketHistory.Proofs.Planning.Calls
import MarketHistory.Proofs.Time.DayCount

/-!
# Windows of a number of bars

With the calendar of a market that never closes, a request for a number of bars should reach back
by that many bars of its resolution. The bars are counted at the effective resolution, whereas a
request for one type without a resolution of its own has the resolution of its subscription; the
window fits exactly if the two agree (`countsBars_requests_iff`).
-/

namespace MarketHistory

/-- The start of a number of bars, with ticks counted as seconds, if they do not reach back too
far. -/
def linearStart? (finish : Instant) (periods : Nat) (resolution : Resolution) : Option Instant :=
  (Span.ofSeconds? (periods * (resolution.coarser .second).barSeconds)).bind finish.sub?

/-- The start of a number of bars; the first instant if they reach back too far. -/
def linearStart (finish : Instant) (periods : Nat) (resolution : Resolution) : Instant :=
  (linearStart? finish periods resolution).getD .first

/-- The request reaches back by a number of bars of its own resolution. -/
def Request.CountsBars (q : Request) (periods : Nat) : Prop :=
  q.startTime = linearStart q.endTime periods q.resolution

instance (q : Request) (periods : Nat) : Decidable (q.CountsBars periods) :=
  inferInstanceAs (Decidable (q.startTime = _))

lemma Resolution.barSeconds_injective {a b : Resolution} (h : a.barSeconds = b.barSeconds) :
    a = b := by
  cases a <;> cases b <;> first | rfl | cases h

/-- Bars of different lengths reach back to different starts. -/
lemma coarser_eq_of_linearStart? {finish start : Instant} {periods : Nat} {a b : Resolution}
    (hperiods : 0 < periods) (ha : linearStart? finish periods a = some start)
    (hb : linearStart? finish periods b = some start) :
    a.coarser .second = b.coarser .second := by
  obtain ⟨spanA, hspanA, hsubA⟩ := Option.bind_eq_some_iff.mp ha
  obtain ⟨spanB, hspanB, hsubB⟩ := Option.bind_eq_some_iff.mp hb
  have hnonneg (r : Resolution) : 0 ≤ (periods : Int) * (r.barSeconds : Int) :=
    Int.mul_nonneg (Int.natCast_nonneg _) (Int.natCast_nonneg _)
  have hseconds : (periods : Int) * (a.coarser .second).barSeconds =
      periods * (b.coarser .second).barSeconds :=
    Instant.seconds_eq_of_sub? (hnonneg _) (hnonneg _) hspanA hspanB hsubA hsubB
  have hseconds : periods * (a.coarser .second).barSeconds =
      periods * (b.coarser .second).barSeconds := by
    exact_mod_cast hseconds
  exact Resolution.barSeconds_injective (Nat.eq_of_mul_eq_mul_left hperiods hseconds)

/-- The same start is reached by no bars, by bars of the same length, or by too many bars. -/
lemma linearStart_eq_iff (finish : Instant) (periods : Nat) (a b : Resolution) :
    linearStart finish periods a = linearStart finish periods b ↔
      periods = 0 ∨ a.coarser .second = b.coarser .second ∨
        linearStart finish periods a = .first ∧ linearStart finish periods b = .first := by
  constructor
  · intro h
    rcases Nat.eq_zero_or_pos periods with hzero | hpos
    · exact .inl hzero
    right
    by_cases hfirst : linearStart finish periods a = .first
    · exact .inr ⟨hfirst, h ▸ hfirst⟩
    left
    cases ha : linearStart? finish periods a with
    | none => exact absurd (by rw [linearStart, ha, Option.getD_none]) hfirst
    | some start =>
      cases hb : linearStart? finish periods b with
      | none => exact absurd (by rw [h, linearStart, hb, Option.getD_none]) hfirst
      | some start' =>
        have hstart : start = start' := by
          rw [linearStart, linearStart, ha, hb] at h
          exact h
        exact coarser_eq_of_linearStart? hpos ha (hstart ▸ hb)
  · rintro (rfl | h | ⟨ha, hb⟩)
    · simp only [linearStart, linearStart?, Int.natCast_zero, Int.zero_mul]
    · rw [linearStart, linearStart, linearStart?, linearStart?, h]
    · rw [ha, hb]

/-- Whether data of a single type are asked for. -/
def Scope.isTyped : Scope → Bool
  | all _     => false
  | one _ _   => true
  | each _ _  => true

namespace Planner

/-- Bars are counted at the effective resolution. -/
lemma countsBars_requestFor_iff (r : Resolver) (scope : Scope) (periods : Nat) (finish : Instant)
    (explicit : Option Resolution) (symbol : Symbol) (s : Subscription) :
    ((⟨r, .linear⟩ : Planner).requestFor scope (.bars periods finish) explicit
        symbol s).CountsBars periods ↔
      linearStart finish periods (r.effectiveResolution symbol explicit) =
        linearStart finish periods
          ((⟨r, .linear⟩ : Planner).resolutionFor scope (.bars periods finish) explicit symbol s) :=
  Iff.rfl

/-- A request has the effective resolution, too, unless it is for one type and the call gives no
resolution. -/
lemma resolutionFor_bars (p : Planner) {scope : Scope} {explicit : Option Resolution}
    (h : scope.isTyped = false ∨ explicit.isSome = true) (periods : Nat) (finish : Instant)
    (symbol : Symbol) (s : Subscription) :
    p.resolutionFor scope (.bars periods finish) explicit symbol s =
      p.resolver.effectiveResolution symbol explicit := by
  cases explicit with
  | some resolution => cases scope <;> rfl
  | none =>
    rcases h with h | h
    · cases scope with
      | all symbols => rfl
      | one symbol requested => cases h
      | each symbols requested => cases h
    · cases h

/-- A request for one type has the resolution of its subscription if the call gives none. -/
lemma resolutionFor_typed (p : Planner) {scope : Scope} (h : scope.isTyped = true)
    (reach : Reach) (symbol : Symbol) (s : Subscription) :
    p.resolutionFor scope reach none symbol s = s.resolution := by
  cases scope with
  | all symbols => cases h
  | one symbol requested => rfl
  | each symbols requested => rfl

/-- Calls for all types, and those that give a resolution, get the windows they ask for. -/
lemma countsBars_of_mem_requests (r : Resolver) {scope : Scope} {explicit : Option Resolution}
    (h : scope.isTyped = false ∨ explicit.isSome = true) (periods : Nat) (finish : Instant) :
    ∀ q ∈ (⟨r, .linear⟩ : Planner).requests scope (.bars periods finish) explicit,
      q.CountsBars periods := by
  intro q hq
  obtain ⟨e, -, rfl⟩ := exists_of_mem_requests hq
  rw [countsBars_requestFor_iff, resolutionFor_bars _ h]

/-- With the calendar of a market that never closes, all requests of a call for bars reach back by
that many bars of their own resolution exactly if the call is for all types or gives a resolution,
or if for each subscription that serves it the effective resolution has the bars of the
subscription, no bars are asked for, or both windows begin with the calendar. -/
theorem countsBars_requests_iff (r : Resolver) (scope : Scope) (periods : Nat) (finish : Instant)
    (explicit : Option Resolution) :
    (∀ q ∈ (⟨r, .linear⟩ : Planner).requests scope (.bars periods finish) explicit,
        q.CountsBars periods) ↔
      scope.isTyped = false ∨ explicit.isSome = true ∨ ∀ e ∈ r.serving scope explicit,
        let effective := r.effectiveResolution e.1 explicit
        periods = 0 ∨ effective.coarser .second = e.2.resolution.coarser .second ∨
          linearStart finish periods effective = .first ∧
            linearStart finish periods e.2.resolution = .first := by
  by_cases h : scope.isTyped = false ∨ explicit.isSome = true
  · rw [← or_assoc]
    exact iff_of_true (countsBars_of_mem_requests r h periods finish) (.inl h)
  · obtain ⟨htyped, hnone⟩ := not_or.mp h
    rw [Bool.not_eq_false] at htyped
    rw [Option.not_isSome_iff_eq_none] at hnone
    subst hnone
    have hserved : Reach.refuses (.bars periods finish) none = false := rfl
    simp only [requests_eq, hserved, htyped, Bool.false_eq_true, Bool.true_eq_false,
      Option.isSome_none, if_false, false_or, List.forall_mem_map, countsBars_requestFor_iff,
      resolutionFor_typed _ htyped, linearStart_eq_iff]

/-! ### Bars of another length -/

/-- A planner with one subscription, to the hourly bars of a share that is not a known security. -/
def ofHours : Planner where
  resolver := ⟨(Catalog.empty.add (.of spy .hour .trade .utc)).value, .alwaysOpen, .empty,
    Settings.usual.defaults⟩
  calendar := .linear

/-- A call for the last five bars of trades asks for the hourly bars of the last five minutes. -/
theorem not_countsBars_requests_ofHours :
    ¬∀ q ∈ ofHours.requests (.one spy .tradeBar) (.bars 5 afternoon) none, q.CountsBars 5 := by
  decide +kernel

end Planner

end MarketHistory
