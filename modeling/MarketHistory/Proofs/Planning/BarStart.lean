import MarketHistory.Proofs.Planning.Calls

/-!
# The start of a number of bars

Bars are counted in the time zone of the best subscription of a symbol, in that of the best one of a
type, or in the zone in which data of the market are kept. If the calendar ignores the zone
(`Calendar.IgnoresZone`), it makes no difference which, and a call for a number of bars at an
explicit resolution is a call over a range (`bars_eq_range`).
-/

namespace MarketHistory

/-- The answers of the calendar do not depend on the time zone of the data. -/
def Calendar.IgnoresZone (c : Calendar) : Prop :=
  ∀ (q : BarCountQuery) (zone : TimeZone), c { q with dataTimeZone := zone } = c q

lemma Calendar.ignoresZone_linear : linear.IgnoresZone := fun _ _ => rfl

namespace Planner

variable {p : Planner} {resolution : Resolution}

/-- The start that is looked up for a number of bars other than ticks. -/
lemma value_startForPeriods (p : Planner) (symbol : Symbol) (periods : Nat) (finish : Instant)
    (htick : resolution ≠ .tick) :
    (p.startForPeriods symbol periods (some resolution) finish).value =
      .ok (p.startOfBars symbol periods resolution (p.resolver.marketHours symbol).dataTimeZone
        finish).value := by
  have hsome : some resolution ≠ some .tick := fun h => htick (Option.some.inj h)
  rw [startForPeriods, if_neg hsome]
  rfl

variable (h : p.calendar.IgnoresZone)

include h

lemma value_startOfBars_eq (symbol : Symbol) (periods : Nat) (finish : Instant)
    (zone zone' : TimeZone) :
    (p.startOfBars symbol periods resolution zone finish).value =
      (p.startOfBars symbol periods resolution zone' finish).value :=
  h ⟨symbol, periods, resolution.coarser .second, p.hours symbol, zone', finish⟩ zone

/-- All requests of a symbol start with the bars, whatever the zone in which these are counted. -/
lemma startFor_bars (scope : Scope) (symbol : Symbol) (s : Subscription) (periods : Nat)
    (finish : Instant) (zone : TimeZone) :
    p.startFor scope (.bars periods finish) (some resolution) symbol s =
      (p.startOfBars symbol periods resolution zone finish).value :=
  value_startOfBars_eq h ..

/-- The request of a call for bars is that of a call over the range since their start. -/
lemma requestFor_bars_eq_range (symbol : Symbol) (s : Subscription) (periods : Nat)
    (finish : Instant) (zone : TimeZone) :
    p.requestFor (.all [symbol]) (.bars periods finish) (some resolution) symbol s =
      p.requestFor (.all [symbol])
        (.range (p.startOfBars symbol periods resolution zone finish).value finish .none)
        (some resolution) symbol s := by
  rw [requestFor, startFor_bars h _ symbol s periods finish zone]
  rfl

/-- At an explicit resolution, a call for a number of bars of a symbol makes the requests of a call
over the range since their start. -/
lemma requests_bars_eq_range (htick : resolution ≠ .tick) (symbol : Symbol) (periods : Nat)
    (finish : Instant) (zone : TimeZone) :
    p.requests (.all [symbol]) (.bars periods finish) (some resolution) =
      p.requests (.all [symbol])
        (.range (p.startOfBars symbol periods resolution zone finish).value finish .none)
        (some resolution) := by
  cases hcanonical : symbol.canonical with
  | true => rw [p.requests_all_of_canonical hcanonical, p.requests_all_of_canonical hcanonical]
  | false =>
    rw [p.requests_all_singleton hcanonical (Reach.refuses_some _ htick),
      p.requests_all_singleton hcanonical (Reach.refuses_some _ htick)]
    exact List.map_congr_left fun s _ => requestFor_bars_eq_range h symbol s periods finish zone

/-- The range of that call begins where `startForPeriods` says. -/
lemma bars_eq_range (htick : resolution ≠ .tick) (symbol : Symbol) (periods : Nat)
    (finish : Instant) :
    ∃ start, (p.startForPeriods symbol periods (some resolution) finish).value = .ok start ∧
      (p.bars [symbol] periods (some resolution) finish).map (·.all.value) =
        .ok (p.range [symbol] start finish (some resolution) .none).all.value := by
  refine ⟨_, p.value_startForPeriods symbol periods finish htick, ?_⟩
  have hsome : some resolution ≠ some .tick := fun h => htick (Option.some.inj h)
  have hbars : (p.bars [symbol] periods (some resolution) finish).map (·.all.value) =
      .ok (p.requests (.all [symbol]) (.bars periods finish) (some resolution)) := by
    rw [requests, bars, if_neg hsome]
    rfl
  rw [hbars, requests_bars_eq_range h htick symbol periods finish]
  rfl

end Planner

end MarketHistory
