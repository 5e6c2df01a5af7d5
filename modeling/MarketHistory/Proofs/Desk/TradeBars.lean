import MarketHistory.Proofs.Desk.Foresight
import MarketHistory.Proofs.Desk.Outcome
import MarketHistory.Proofs.Planning.BarStart
import MarketHistory.Proofs.Subscription.Narrowing

/-!
# Bars of trades over a number of bars

A query for bars of trades over a number of bars looks up their start itself and then asks for a
range. With a calendar that ignores the time zone of the data it returns the bars of trades among
all data over that number of bars (`tradeBars_periods`).
-/

namespace MarketHistory

/-- The bars of trades of a symbol in some slices, in their order. -/
def Slice.tradeBarsOf (symbol : Symbol) (slices : List Slice) : List TradeBar :=
  ((slices.flatMap Slice.data).filterMap Observation.tradeBar?).filter (·.symbol = symbol)

/-- What a request for bars of trades takes are the bars of trades. -/
lemma Slice.filterMap_project_tradeBar (slices : List Slice) (symbol : Symbol) :
    (Slice.project slices symbol .tradeBar).filterMap Observation.tradeBar? =
      Slice.tradeBarsOf symbol slices := by
  rw [project, tradeBarsOf, List.filterMap_filter, List.filter_filterMap]
  refine List.filterMap_congr fun o _ => ?_
  cases o with
  | tradeBar b =>
    show (if decide (b.symbol = symbol) && true then some b else none) =
      (some b).filter (·.symbol = symbol)
    rw [Bool.and_true]
    rfl
  | _ => simp [Observation.tradeBar?]

namespace Desk

variable {d : Desk} {resolution : Resolution}

/-- At an explicit resolution other than that of ticks there is a call for bars of trades if the
window can be told. -/
lemma barCall?_some (d : Desk) (htick : resolution ≠ .tick) (symbol : Symbol) (window : Window) :
    d.barCall? symbol window (some resolution) =
      (d.barReach? symbol window resolution).map fun reach =>
        ⟨.all [symbol], reach, some resolution⟩ := by
  have hisTick : ¬resolution.isTick = true := by
    cases resolution <;> first | exact absurd rfl htick | decide
  rw [barCall?, Resolver.effectiveResolution_some, if_neg hisTick]

/-- The call for bars of trades over a number of bars has the outcome of the call for all data over
that number of bars. -/
lemma outcome_barCall?_periods (h : d.calendar.IgnoresZone) (htick : resolution ≠ .tick)
    (symbol : Symbol) (count : Nat) :
    d.outcome (d.barCall? symbol (.periods count) (some resolution)) =
      d.outcome (.ok ⟨.all [symbol], .bars count d.now, some resolution⟩) := by
  rw [d.barCall?_some htick, barReach?,
    d.planner.value_startForPeriods symbol count d.now htick]
  simp only [Except.map, outcome, Reach.refuses_some _ htick, Bool.false_eq_true, if_false]
  rw [Planner.requestsOf, Planner.requestsOf, ← Planner.requests_bars_eq_range h htick]

/-- With a calendar that ignores the time zone of the data, at an explicit resolution other than
that of ticks: a call for a number of bars of a symbol makes the requests of a call over the range
that begins where the start of the bars is looked up; and so a query for bars of trades over a number
of bars returns, in order, the bars of trades of the symbol among what a query for all data over that
number of bars returns, or fails as that query does. -/
theorem tradeBars_periods (d : Desk) (h : d.calendar.IgnoresZone) {resolution : Resolution}
    (htick : resolution ≠ .tick) (symbol : Symbol) (count : Nat) :
    (∀ finish, ∃ start,
      (d.planner.startForPeriods symbol count (some resolution) finish).value = .ok start ∧
      (d.planner.bars [symbol] count (some resolution) finish).map (·.all.value) =
        .ok (d.planner.range [symbol] start finish (some resolution) .none).all.value) ∧
    (d.tradeBars symbol (.periods count) (some resolution)).run.value =
      (d.historyPeriods [symbol] count (some resolution)).run.value.map
        (Slice.tradeBarsOf symbol) := by
  constructor
  · exact fun finish => Planner.bars_eq_range h htick symbol count finish
  · rw [value_tradeBars, value_historyPeriods, outcome_barCall?_periods h htick]
    simp only [Slice.filterMap_project_tradeBar]

/-- A query for the last five minute bars of trades of a share returns the one that there is. -/
theorem tradeBars_periods_of_last_day :
    let desk := lastMidnight.blank.afterAll [.load .minute [barOfLastDay 0]]
    desk.calendar.IgnoresZone ∧ Resolution.minute ≠ .tick ∧
      (desk.tradeBars Planner.spy (.periods 5) (some .minute)).run.value =
        (desk.historyPeriods [Planner.spy] 5 (some .minute)).run.value.map
          (Slice.tradeBarsOf Planner.spy) ∧
      (desk.tradeBars Planner.spy (.periods 5) (some .minute)).run.value.map List.length = .ok 1 := by
  refine ⟨Calendar.ignoresZone_linear, by decide, ?_, by decide +kernel⟩
  exact (tradeBars_periods _ Calendar.ignoresZone_linear (by decide) _ _).2

end Desk

end MarketHistory
