import MarketHistory.Proofs.Archive.Testing
import MarketHistory.Proofs.Hours.Overnight

/-!
# Exchanges that never close

For an exchange that never closes the archive does not test whether an observation begins while the
exchange is open. The test would always succeed, whatever date the clock of the exchange shows, so
that the answers are those of an archive that tests every observation
(`Archive.fetchBy?_answersWhileOpen?`). Only where the clock shows no date, at an end of the calendar,
there would be no answer. In universal time no other exchange is always open: any other is closed on
some day at the time at which its session ends (`TradingHours.isAlwaysOpen_of_isOpen?_closes`).
-/

namespace MarketHistory

/-! ### Closing times -/

lemma Date.exists_isWeekend : ∃ day : Date, day.isWeekend = true :=
  ⟨(ofNumbers? 2024 3 2).getD .first, by decide⟩

namespace TradingHours

variable {h : TradingHours}

/-- The closing time lies in the session only if that lasts the whole day. -/
lemma inSession_closes_iff : h.inSession h.closes = true ↔ h.opens = h.closes := by
  have hself : ¬h.closes < h.closes := Std.lt_irrefl
  constructor
  · intro hin
    by_contra hne
    simp only [inSession, if_neg hne] at hin
    split at hin
    · simp [hself] at hin
    next hlate =>
      have hle : h.opens ≤ h.closes := by simpa [hself] using hin
      exact hne (Std.le_antisymm hle (Std.not_lt.mp hlate))
  · intro heq
    simp [inSession, heq]

/-- An exchange that is open on every day at the time at which its session ends never closes: the
session lasts the whole day, and neither weekends nor holidays are left out. -/
lemma isAlwaysOpen_of_isOpen?_closes {clocks : ZoneClocks} (hutc : h.timeZone = .utc)
    (hopen : ∀ day, h.isOpen? clocks ⟨day, h.closes⟩ = some true) : h.isAlwaysOpen = true := by
  have hparts : ∀ day, h.isTradingDay day = true ∧ h.inSession h.closes = true := by
    intro day
    have hday := hopen day
    rwa [isOpen?_utc clocks hutc, Option.some_inj, Bool.and_eq_true] at hday
  have htrading : ∀ day, h.isTradingDay day = true := fun day => (hparts day).1
  rw [isAlwaysOpen_iff]
  refine ⟨?_, ?_, ?_⟩
  · obtain ⟨saturday, hweekend⟩ := Date.exists_isWeekend
    have hsaturday := htrading saturday
    simp only [isTradingDay, hweekend, Bool.and_true, Bool.and_eq_true] at hsaturday
    simpa using hsaturday.1
  · rw [List.eq_nil_iff_forall_not_mem]
    intro holiday hmem
    have hholiday := htrading holiday
    simp [isTradingDay, hmem] at hholiday
  · exact inSession_closes_iff.mp (hparts .first).2

/-- An exchange that never closes is open where its clock shows a date. -/
lemma isOpen?_of_reading? (halways : h.isAlwaysOpen = true) {clocks : ZoneClocks} {t : Instant}
    (hreading : (clocks.reading? h.timeZone t).isSome = true) : h.isOpen? clocks t = some true := by
  obtain ⟨reading, hreading⟩ := Option.isSome_iff_exists.mp hreading
  rw [isOpen?_of_isAlwaysOpen halways, hreading, Option.map_some]

end TradingHours

/-- Between the first and the last day of the calendar every clock shows a date. -/
lemma ZoneClocks.isSome_reading? (clocks : ZoneClocks) (zone : TimeZone) {t : Instant}
    (hfirst : t.date ≠ .first) (hlast : t.date ≠ .last) :
    (clocks.reading? zone t).isSome = true :=
  Instant.isSome_atOffset? (clocks.natAbs_ahead_lt zone t) hfirst hlast

/-! ### Answers without the shortcut -/

namespace Archive

/-- Whether an observation of the right time, symbol and resolution answers a request, where every
observation has to begin while the exchange is open. There is no answer where that cannot be told. -/
def answersWhileOpen? (clocks : ZoneClocks) (r : Request) (o : Observation) : Option Bool :=
  if r.dataType.accepts o.dataType && o.tickType = r.tickType then r.hours.isOpen? clocks o.time
  else some false

section Regular

variable {clocks : ZoneClocks} {r : Request} {o : Observation}

/-- For intraday data of regular sessions the two tests have the same results: an exchange that is
not tested never closes. -/
lemma answers?_of_answersWhileOpen? (hextended : r.extendedHours = false)
    (hintraday : r.resolution < .daily) {b : Bool}
    (h : answersWhileOpen? clocks r o = some b) : answers? clocks r o = some b := by
  rw [answersWhileOpen?] at h
  rw [answers?]
  split at h
  next haccepts =>
    rw [if_pos haccepts]
    split
    next => exact h
    next hregular =>
      have halways : r.hours.isAlwaysOpen = true := by
        simpa [isRegularOnly, hextended, hintraday] using hregular
      rw [TradingHours.isOpen?_of_isAlwaysOpen halways] at h
      obtain ⟨-, -, rfl⟩ := Option.map_eq_some_iff.mp h
      rfl
  next haccepts =>
    rw [if_neg haccepts]
    exact h

lemma isSome_answersWhileOpen? (h : (clocks.reading? r.hours.timeZone o.time).isSome = true) :
    (answersWhileOpen? clocks r o).isSome = true := by
  rw [answersWhileOpen?]
  split
  · rw [TradingHours.isOpen?, Option.isSome_map]
    exact h
  · rfl

end Regular

section Batch

variable {a : Archive} {batch : List Request}
  (hregular : ∀ r ∈ batch, r.extendedHours = false ∧ r.resolution < .daily)

include hregular

/-- Where an archive that tests every observation answers, it answers as the archive does. -/
lemma fetch?_of_fetchBy?_answersWhileOpen? {answer : Traced (Except QueryError (List Slice))}
    (h : a.fetchBy? (answersWhileOpen? a.clocks) batch = some answer) :
    a.fetch? batch = some answer := by
  refine fetchBy?_mono (fun r hr o _ b hb => ?_) h
  obtain ⟨hextended, hintraday⟩ := hregular r hr
  exact answers?_of_answersWhileOpen? hextended hintraday hb

/-- It answers if the observations in the range of the requests begin where the clocks show a date. -/
lemma fetchBy?_answersWhileOpen? (h : ∀ r ∈ batch, ∀ o ∈ a.inRange r,
      (a.clocks.reading? r.hours.timeZone o.time).isSome = true) :
    a.fetchBy? (answersWhileOpen? a.clocks) batch = some (a.fetch batch) := by
  refine fetchBy?_eq_some fun r hr o ho => ?_
  obtain ⟨hextended, hintraday⟩ := hregular r hr
  obtain ⟨b, hb⟩ := Option.isSome_iff_exists.mp (isSome_answersWhileOpen? (h r hr o ho))
  rw [hb, answers_of_answers? (answers?_of_answersWhileOpen? hextended hintraday hb)]

end Batch

end Archive

namespace TradingHours

/-- An exchange that never closes is open at every instant at which its clock shows a date: on each
day but the first and the last of the calendar, and in universal time always. In universal time an
exchange that is open at every instant never closes. For intraday data of regular sessions an archive
that tests of every observation whether it begins while the exchange is open answers, wherever it
does, as the archive without that test; and it does answer if the observations in the range of the
requests begin where the clocks show a date. -/
theorem isAlwaysOpen_exact (clocks : ZoneClocks) (h : TradingHours) :
    (h.isAlwaysOpen = true → ∀ t reading : Instant,
      (h.isTradingDay reading.date = true ∧ h.inSession reading.time = true) ∧
      ((clocks.reading? h.timeZone t).isSome = true → h.isOpen? clocks t = some true) ∧
      (t.date ≠ .first → t.date ≠ .last → h.isOpen? clocks t = some true) ∧
      (h.timeZone = .utc → h.isOpen? clocks t = some true)) ∧
    (h.timeZone = .utc → (∀ t, h.isOpen? clocks t = some true) → h.isAlwaysOpen = true) ∧
    ∀ (a : Archive) (batch : List Request),
      (∀ r ∈ batch, r.extendedHours = false ∧ r.resolution < .daily) →
        (∀ answer, a.fetchBy? (Archive.answersWhileOpen? a.clocks) batch = some answer →
          a.fetch? batch = some answer ∧ a.fetch batch = answer) ∧
        ((∀ r ∈ batch, ∀ o ∈ a.inRange r,
            (a.clocks.reading? r.hours.timeZone o.time).isSome = true) →
          a.fetchBy? (Archive.answersWhileOpen? a.clocks) batch = some (a.fetch batch)) := by
  refine ⟨?_, ?_, ?_⟩
  · intro halways t reading
    refine ⟨trading_of_isAlwaysOpen halways reading, isOpen?_of_reading? halways, ?_, ?_⟩
    · intro hfirst hlast
      exact isOpen?_of_reading? halways (clocks.isSome_reading? h.timeZone hfirst hlast)
    · intro hutc
      refine isOpen?_of_reading? halways ?_
      rw [hutc, clocks.reading?_utc]
      rfl
  · intro hutc hopen
    exact isAlwaysOpen_of_isOpen?_closes hutc fun day => hopen _
  · intro a batch hregular
    constructor
    · intro answer hanswer
      have hfetch := Archive.fetch?_of_fetchBy?_answersWhileOpen? hregular hanswer
      exact ⟨hfetch, (Archive.eq_fetch_of_fetch? hfetch).symm⟩
    · exact Archive.fetchBy?_answersWhileOpen? hregular

/-! ### A pair of coins -/

/-- A bar of trades in a pair of coins that begins on a Saturday. -/
def coinBar : Observation :=
  .tradeBar ⟨⟨"BTCUSD", .crypto, "coinbase", false⟩, twoInTheMorning 2, twoInTheMorning 3,
    .flat .zero, .zero⟩

/-- A request for bars of trades in the coins up to the end of that bar. -/
def coinRequest : Request where
  startTime     := .first
  endTime       := coinBar.endTime
  dataType      := .tradeBar
  symbol        := coinBar.symbol
  resolution    := .minute
  hours         := .alwaysOpen .utc
  dataTimeZone  := .utc
  fillForward   := none
  extendedHours := false
  isCustom      := false
  normalization := .raw
  tickType      := .trade

/-- The exchange of the coins is open on a Saturday too, so that the bar is found by the test. -/
theorem isAlwaysOpen_exact_of_coins :
    let h := alwaysOpen .utc
    let a := Archive.loaded .exchanges [⟨.minute, [coinBar]⟩] none
    let tested := a.fetchBy? (Archive.answersWhileOpen? a.clocks) [coinRequest]
    h.isAlwaysOpen = true ∧ h.timeZone = .utc ∧ (∀ t, h.isOpen? .exchanges t = some true) ∧
      (∀ r ∈ [coinRequest], r.extendedHours = false ∧ r.resolution < .daily) ∧
      (∀ r ∈ [coinRequest], ∀ o ∈ a.inRange r,
        (a.clocks.reading? r.hours.timeZone o.time).isSome = true) ∧
      a.inRange coinRequest = [coinBar] ∧
      tested.map Traced.value = some (.ok [⟨coinBar.endTime, [coinBar]⟩]) := by
  intro h a tested
  obtain ⟨hsound, htight, hanswers⟩ := isAlwaysOpen_exact .exchanges h
  have hopen : ∀ t, h.isOpen? .exchanges t = some true := by
    intro t
    obtain ⟨-, -, -, hutc⟩ := hsound rfl t t
    exact hutc rfl
  have hregular : ∀ r ∈ [coinRequest], r.extendedHours = false ∧ r.resolution < .daily := by
    simp only [List.mem_singleton, forall_eq]
    decide
  have hreadings : ∀ r ∈ [coinRequest], ∀ o ∈ a.inRange r,
      (a.clocks.reading? r.hours.timeZone o.time).isSome = true := by
    decide +kernel
  have htested : tested = some (a.fetch [coinRequest]) :=
    (hanswers a [coinRequest] hregular).2 hreadings
  refine ⟨htight rfl hopen, rfl, hopen, hregular, hreadings, by decide +kernel, ?_⟩
  rw [htested]
  decide +kernel

/-! ### The last instant of the calendar -/

/-- The zone of the exchanges in Tokyo, whose clock is nine hours ahead. -/
def tokyo : TimeZone := ⟨"Asia/Tokyo", by simp [TimeZone.names, TimeZone.exchangeNames]⟩

/-- The last nanosecond of the last day. -/
def lastInstant : Instant := ⟨.last, (TimeOfDay.ofNumbers? 86399 999999999).getD .midnight⟩

/-- A trade in the coins at the last instant. -/
def lastTrade : Observation :=
  .tick ⟨coinBar.symbol, lastInstant, .trade, .zero, .zero, none, none⟩

/-- A request for trades up to the last instant, if the exchange were in Tokyo. -/
def lastRequest : Request :=
  { coinRequest with
    endTime    := lastInstant
    dataType   := .tick
    resolution := .tick
    hours      := .alwaysOpen tokyo }

/-- At the last instant the clock in Tokyo shows no date. An exchange there that never closes cannot be
asked whether it is open, and a trade of that instant is found only where it is not asked. -/
theorem isOpen?_tokyo_lastInstant :
    let h := alwaysOpen tokyo
    let a := Archive.loaded .exchanges [⟨.tick, [lastTrade]⟩] none
    h.isAlwaysOpen = true ∧ h.isOpen? .exchanges lastInstant = none ∧
      lastRequest.hours = h ∧ lastRequest.extendedHours = false ∧
      lastRequest.resolution < .daily ∧
      (a.fetch? [lastRequest]).map Traced.value = some (.ok [⟨lastInstant, [lastTrade]⟩]) ∧
      (a.fetchBy? (Archive.answersWhileOpen? a.clocks) [lastRequest]).isNone = true := by
  decide +kernel

end TradingHours

end MarketHistory
