import MarketHistory.Hours.TradingHours
import MarketHistory.Proofs.Time.Order
import MarketHistory.Time.Zone.Exchanges

/-!
# Sessions past midnight

A session that closes before it opens runs from the opening on its day to the closing on the day
after (`TradingHours.OvernightSession`). Whether the exchange is open is told by the calendar day of
the instant alone, so that the part after midnight belongs to the wrong day: it is right exactly if
the day before is a trading day where the day itself is one (`TradingHours.isOpen_overnight_iff`).
-/

namespace MarketHistory

/-- A clock of universal time shows the instant itself. -/
lemma ZoneClocks.reading?_utc (clocks : ZoneClocks) (t : Instant) :
    clocks.reading? .utc t = some t := by
  rw [reading?, clocks.ahead_utc, t.atOffset?_zero]

/-! ### Sessions -/

namespace TradingHours

variable (h : TradingHours)

/-- The session of a day lasts from the opening on that day until the closing on the next one, if
there is a next one. -/
def OvernightSession (day : Date) (t : Instant) : Prop :=
  ⟨day, h.opens⟩ ≤ t ∧ ∀ next ∈ day.next?, t < ⟨next, h.closes⟩

instance (day : Date) (t : Instant) : Decidable (h.OvernightSession day t) :=
  inferInstanceAs (Decidable (_ ∧ _))

/-- An instant lies in the session of its own day or in that of the day before. -/
lemma overnightSession_iff {day : Date} {t : Instant} :
    h.OvernightSession day t ↔
      t.date = day ∧ h.opens ≤ t.time ∨ day.next? = some t.date ∧ t.time < h.closes := by
  rw [OvernightSession, Instant.le_iff]
  cases hnext : day.next? with
  | none =>
    have hlast := Date.compare_ne_lt_of_next? hnext t.date
    constructor
    · rintro ⟨hlt | ⟨hday, hopens⟩, -⟩
      · exact absurd hlt hlast
      · exact .inl ⟨hday.symm, hopens⟩
    · rintro (⟨hday, hopens⟩ | ⟨hnone, -⟩)
      · exact ⟨.inr ⟨hday.symm, hopens⟩, fun _ hsome => absurd hsome (Option.not_mem_none _)⟩
      · cases hnone
  | some next =>
    have hfinish : (∀ next' ∈ some next, t < ⟨next', h.closes⟩) ↔
        compare day t.date ≠ .lt ∨ next = t.date ∧ t.time < h.closes := by
      rw [← Date.compare_next?_eq_lt_iff hnext, @eq_comm _ next,
        ← Instant.lt_iff (u := ⟨next, h.closes⟩)]
      simp only [Option.mem_some, forall_eq']
    rw [hfinish, Option.some_inj]
    constructor
    · rintro ⟨hlt | ⟨rfl, hopens⟩, hle | htail⟩
      · exact absurd hlt hle
      · exact .inr htail
      · exact .inl ⟨rfl, hopens⟩
      · exact .inr htail
    · rintro (⟨rfl, hopens⟩ | ⟨rfl, hcloses⟩)
      · exact ⟨.inr ⟨rfl, hopens⟩, .inl t.date.compare_self_ne_lt⟩
      · exact ⟨.inl (Date.compare_eq_lt_of_next? hnext), .inr ⟨rfl, hcloses⟩⟩

/-- On a clock of universal time the instants themselves are read. -/
lemma isOpen?_utc {h : TradingHours} (clocks : ZoneClocks) (hutc : h.timeZone = .utc) (t : Instant) :
    h.isOpen? clocks t = some (h.isTradingDay t.date && h.inSession t.time) := by
  rw [isOpen?, hutc, clocks.reading?_utc, Option.map_some]

/-- During hours that run past midnight the exchange is open before and after midnight on the trading
days. -/
lemma isOpen?_of_closes_lt_opens {h : TradingHours} (clocks : ZoneClocks) (hutc : h.timeZone = .utc)
    (hnight : h.closes < h.opens) (t : Instant) :
    h.isOpen? clocks t = some true ↔
      h.isTradingDay t.date = true ∧ (h.opens ≤ t.time ∨ t.time < h.closes) := by
  have hne : h.opens ≠ h.closes := (Std.ne_of_lt hnight).symm
  have hlt : ¬h.opens < h.closes := Std.not_lt.mpr (Std.le_of_lt hnight)
  rw [isOpen?_utc clocks hutc, Option.some_inj]
  simp only [inSession, if_neg hne, if_neg hlt, Bool.and_eq_true, Bool.or_eq_true,
    decide_eq_true_iff]

/-- An exchange with hours that run past midnight is open exactly in the sessions of its trading
days, but for the time after midnight and before the closing: this is counted to the day on which it
falls, and so it is right exactly if that day is a trading day just where the day before is one. -/
theorem isOpen_overnight_iff (clocks : ZoneClocks) (h : TradingHours) (hutc : h.timeZone = .utc)
    (hnight : h.closes < h.opens) (t : Instant) :
    (h.isOpen? clocks t = some true ↔
      ∃ day, h.isTradingDay day = true ∧ h.OvernightSession day t) ↔
      (t.time < h.closes → (h.isTradingDay t.date = true ↔
        ∃ day, day.next? = some t.date ∧ h.isTradingDay day = true)) := by
  have hsession : (∃ day, h.isTradingDay day = true ∧ h.OvernightSession day t) ↔
      h.isTradingDay t.date = true ∧ h.opens ≤ t.time ∨
        (∃ day, day.next? = some t.date ∧ h.isTradingDay day = true) ∧ t.time < h.closes := by
    simp only [overnightSession_iff]
    constructor
    · rintro ⟨day, hday, ⟨rfl, hopens⟩ | ⟨hnext, hcloses⟩⟩
      · exact .inl ⟨hday, hopens⟩
      · exact .inr ⟨⟨day, hnext, hday⟩, hcloses⟩
    · rintro (⟨hday, hopens⟩ | ⟨⟨day, hnext, hday⟩, hcloses⟩)
      · exact ⟨t.date, hday, .inl ⟨rfl, hopens⟩⟩
      · exact ⟨day, hday, .inr ⟨hnext, hcloses⟩⟩
  rw [isOpen?_of_closes_lt_opens clocks hutc hnight, hsession]
  by_cases hcloses : t.time < h.closes
  · have hopens : ¬h.opens ≤ t.time := Std.not_le.mpr (Std.lt_trans hcloses hnight)
    simp only [hcloses, hopens, or_true, and_true, and_false, false_or, forall_const]
  · simp only [hcloses, or_false, and_false, iff_self, false_implies]

/-- Hours from ten in the evening to six in the morning on the days from Monday to Friday. -/
def nightly : TradingHours :=
  .regular .utc ((TimeOfDay.ofNumbers? 79200 0).getD .midnight)
    ((TimeOfDay.ofNumbers? 21600 0).getD .midnight)

/-- The given day of March 2024, the first of which is a Friday, at two in the morning. -/
def twoInTheMorning (day : Nat) : Instant :=
  ⟨(Date.ofNumbers? 2024 3 day).getD .first, (TimeOfDay.ofNumbers? 7200 0).getD .midnight⟩

/-- On a Tuesday at two in the morning it is the session of the Monday. -/
theorem isOpen_nightly_tuesday :
    let tuesday := twoInTheMorning 5
    nightly.timeZone = .utc ∧ nightly.closes < nightly.opens ∧
      (nightly.isOpen? .exchanges tuesday = some true ↔
        ∃ day, nightly.isTradingDay day = true ∧ nightly.OvernightSession day tuesday) := by
  intro tuesday
  have hnight : nightly.closes < nightly.opens := by decide
  refine ⟨rfl, hnight, (isOpen_overnight_iff .exchanges nightly rfl hnight tuesday).mpr fun _ => ?_⟩
  have hmonday : (twoInTheMorning 4).date.next? = some tuesday.date := by decide
  exact ⟨fun _ => ⟨_, hmonday, by decide⟩, fun _ => by decide⟩

/-- On a Saturday at two in the morning the exchange is closed in the session of the Friday, and on
the Monday it is open though there is no session. -/
theorem not_isOpen_nightly_weekend :
    let friday := twoInTheMorning 1
    let saturday := twoInTheMorning 2
    let monday := twoInTheMorning 4
    nightly.timeZone = .utc ∧ nightly.closes < nightly.opens ∧
      (nightly.isTradingDay friday.date = true ∧ nightly.OvernightSession friday.date saturday ∧
        nightly.isOpen? .exchanges saturday = some false) ∧
      nightly.isOpen? .exchanges monday = some true ∧
        ¬∃ day, nightly.isTradingDay day = true ∧ nightly.OvernightSession day monday := by
  intro friday saturday monday
  refine ⟨rfl, by decide, by decide, by decide, ?_⟩
  rintro ⟨day, htrading, hsession⟩
  rcases nightly.overnightSession_iff.mp hsession with ⟨-, hopens⟩ | ⟨hnext, -⟩
  · revert hopens
    decide
  · -- the day before is a Sunday by its number
    have hsunday := Date.dayNumber_of_next? hnext
    have hmonday : monday.date.dayNumber = 19786 := by decide
    have hweekend : day.isWeekend = true := by
      rw [Date.isWeekend]
      exact decide_eq_true (by omega)
    rw [isTradingDay, hweekend] at htrading
    cases htrading

end TradingHours

end MarketHistory
