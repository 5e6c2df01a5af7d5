import MarketHistory.Proofs.Json.History
import MarketHistory.Proofs.Json.Settings

/-!
# Texts of values

A value that was read from a text is written as a text that reads back as this value
(`Json.reads_back_written`). There is one exception: a zero with a minus sign, to which a number in
scientific notation may be rounded, is read back without the sign
(`Json.signedZero_not_read_back`).
-/

namespace MarketHistory

open Json

/-! ### Zeros with a sign -/

namespace Prices

/-- The four prices. -/
def decimals (p : Prices) : List Decimal := [p.opening, p.high, p.low, p.closing]

lemma plain_eq_self_iff (p : Prices) : p.plain = p ↔ ∀ d ∈ p.decimals, d.plain = d := by
  obtain ⟨opening, high, low, closing⟩ := p
  simp [plain, decimals]

end Prices

namespace Observation

/-- The prices and quantities of an observation. -/
def decimals : Observation → List Decimal
  | tradeBar b     => b.volume :: b.prices.decimals
  | quoteBar b     => b.bid.toList.flatMap Prices.decimals ++ b.ask.toList.flatMap Prices.decimals
  | tick t         => t.value :: t.quantity :: (t.bidPrice.toList ++ t.askPrice.toList)
  | openInterest o => [o.value]

lemma decimals_plain (o : Observation) : o.plain.decimals = o.decimals.map Decimal.plain := by
  cases o with
  | tradeBar b => rfl
  | quoteBar b =>
    obtain ⟨symbol, time, endTime, bid, ask⟩ := b
    cases bid <;> cases ask <;> rfl
  | tick t =>
    obtain ⟨symbol, time, tickType, value, quantity, bidPrice, askPrice⟩ := t
    cases bidPrice <;> cases askPrice <;> rfl
  | openInterest o => rfl

lemma plain_eq_self_iff_decimals (o : Observation) :
    o.plain = o ↔ ∀ d ∈ o.decimals, d.plain = d := by
  cases o with
  | tradeBar b =>
    obtain ⟨symbol, time, endTime, prices, volume⟩ := b
    simp [plain, TradeBar.plain, decimals, Prices.plain_eq_self_iff, and_comm]
  | quoteBar b =>
    obtain ⟨symbol, time, endTime, bid, ask⟩ := b
    cases bid <;> cases ask <;>
      simp [plain, QuoteBar.plain, decimals, Prices.plain_eq_self_iff, or_imp, forall_and]
  | tick t =>
    obtain ⟨symbol, time, tickType, value, quantity, bidPrice, askPrice⟩ := t
    cases bidPrice <;> cases askPrice <;> simp [plain, Tick.plain, decimals]
  | openInterest o =>
    obtain ⟨symbol, time, value⟩ := o
    simp [plain, OpenInterest.plain, decimals]

/-- Whether one of the prices and quantities is a zero with a minus sign. -/
def HasSignedZero (o : Observation) : Prop := ∃ d ∈ o.decimals, d.IsSignedZero

lemma plain_eq_self_iff (o : Observation) : o.plain = o ↔ ¬o.HasSignedZero := by
  simp only [plain_eq_self_iff_decimals, Decimal.plain_eq_self_iff, HasSignedZero, not_exists,
    not_and]

lemma plain_plain (o : Observation) : o.plain.plain = o.plain := by
  rw [plain_eq_self_iff_decimals, decimals_plain]
  exact List.forall_mem_map.mpr fun d _ => d.plain_plain

end Observation

namespace Slice

/-- Whether one of the prices and quantities is a zero with a minus sign. -/
def HasSignedZero (s : Slice) : Prop := ∃ o ∈ s.data, o.HasSignedZero

lemma plain_eq_self_iff_data (s : Slice) : s.plain = s ↔ ∀ o ∈ s.data, o.plain = o := by
  obtain ⟨time, data⟩ := s
  have hmap : data.map Observation.plain = data.map id ↔ ∀ o ∈ data, o.plain = o :=
    List.map_inj_left
  rw [List.map_id] at hmap
  simpa [plain] using hmap

lemma plain_eq_self_iff (s : Slice) : s.plain = s ↔ ¬s.HasSignedZero := by
  simp only [plain_eq_self_iff_data, Observation.plain_eq_self_iff, HasSignedZero, not_exists,
    not_and]

lemma plain_plain (s : Slice) : s.plain.plain = s.plain := by
  rw [plain_eq_self_iff_data]
  exact List.forall_mem_map.mpr fun o _ => o.plain_plain

end Slice

/-! ### Reading what was written -/

namespace Json

variable {α : Type}

/-- What `ofJson?` reads from a text. -/
def decode? (ofJson? : Json → Option α) (text : String) : Option α := (parse? text).bind ofJson?

/-- The text that is written of what `ofJson?` reads from a text. -/
def rewrite? (ofJson? : Json → Option α) (toJson : α → Json) (text : String) : Option String :=
  (decode? ofJson? text).map fun a => (toJson a).text

/-- Whether each value that is read from a text is written as a text that reads as the plain value,
whose text is written again as it is. -/
def RoundTrips (ofJson? : Json → Option α) (toJson : α → Json) (plain : α → α) : Prop :=
  ∀ text, ∀ a ∈ decode? ofJson? text,
    decode? ofJson? (toJson a).text = some (plain a) ∧
    rewrite? ofJson? toJson (toJson (plain a)).text = some (toJson (plain a)).text

section RoundTrips

variable {ofJson? : Json → Option α} {toJson : α → Json} {plain : α → α} {P : α → Prop}

/-- What is read is `P`, and what is `P` is written as a value that reads as the plain value. -/
lemma RoundTrips.of_forall (hP : ∀ j, ∀ a ∈ ofJson? j, P a)
    (hread : ∀ a, P a → ofJson? (toJson a) = some (plain a))
    (hplain : ∀ a, (toJson a).IsPlain) (hidem : ∀ a, plain (plain a) = plain a) :
    RoundTrips ofJson? toJson plain := by
  intro text a ha
  have hwritten (b : α) (hb : P b) : decode? ofJson? (toJson b).text = some (plain b) := by
    rw [decode?, parse?_text (hplain b), Option.bind_some, hread b hb]
  obtain ⟨j, -, ha⟩ := Option.bind_eq_some_iff.mp ha
  have hPa : P a := hP j a ha
  have hPplain : P (plain a) := hP (toJson a) (plain a) (hread a hPa)
  have hagain := hwritten (plain a) hPplain
  rw [hidem] at hagain
  refine ⟨hwritten a hPa, ?_⟩
  rw [rewrite?, hagain, Option.map_some]

/-- What is read is `P`, and what is `P` is written as a value that reads as it. -/
lemma RoundTrips.of_forall_self (hP : ∀ j, ∀ a ∈ ofJson? j, P a)
    (hread : ∀ a, P a → ofJson? (toJson a) = some a) (hplain : ∀ a, (toJson a).IsPlain) :
    RoundTrips ofJson? toJson id :=
  .of_forall hP hread hplain fun _ => rfl

end RoundTrips

end Json

lemma Symbol.roundTrips : RoundTrips ofJson? toJson id :=
  .of_forall_self (P := fun _ => True) (fun _ _ _ => trivial) (fun s _ => s.ofJson?_toJson)
    isPlain_toJson

lemma TradingHours.roundTrips : RoundTrips ofJson? toJson id :=
  .of_forall_self isClock_of_mem_ofJson? (fun _ => ofJson?_toJson) isPlain_toJson

lemma Subscription.roundTrips : RoundTrips ofJson? toJson id :=
  .of_forall_self (P := fun _ => True) (fun _ _ _ => trivial) (fun s _ => s.ofJson?_toJson)
    isPlain_toJson

lemma Request.roundTrips : RoundTrips ofJson? toJson id :=
  .of_forall_self isClock_of_mem_ofJson? (fun _ => ofJson?_toJson) isPlain_toJson

lemma Settings.roundTrips : RoundTrips ofJson? toJson id :=
  .of_forall_self fits_of_mem_ofJson? (fun _ => ofJson?_toJson) isPlain_toJson

lemma Observation.roundTrips : RoundTrips ofJson? toJson plain :=
  .of_forall (isClock_of_mem_ofJsonWithin? nestingLimit)
    (fun _ h => ofJsonWithin?_toJson h (nestingLimit - 2)) isPlain_toJson plain_plain

lemma Slice.roundTrips : RoundTrips ofJson? toJson plain :=
  .of_forall isClock_of_mem_ofJson? (fun _ => ofJson?_toJson) isPlain_toJson plain_plain

namespace Json

/-- Values that were read are written as texts that read back as they are, and that are written
again as they are; but observations and slices lose the signs of zeros, if there are any. -/
theorem reads_back_written :
    RoundTrips Symbol.ofJson? Symbol.toJson id ∧
    RoundTrips TradingHours.ofJson? TradingHours.toJson id ∧
    RoundTrips Subscription.ofJson? Subscription.toJson id ∧
    RoundTrips Request.ofJson? Request.toJson id ∧
    RoundTrips Settings.ofJson? Settings.toJson id ∧
    RoundTrips Observation.ofJson? Observation.toJson Observation.plain ∧
    RoundTrips Slice.ofJson? Slice.toJson Slice.plain ∧
    (∀ o : Observation, o.plain = o ↔ ¬o.HasSignedZero) ∧
    (∀ s : Slice, s.plain = s ↔ ¬s.HasSignedZero) :=
  ⟨Symbol.roundTrips, TradingHours.roundTrips, Subscription.roundTrips, Request.roundTrips,
    Settings.roundTrips, Observation.roundTrips, Slice.roundTrips, Observation.plain_eq_self_iff,
    Slice.plain_eq_self_iff⟩

/-- A trade at a leap second. -/
def sampleTick : Observation :=
  .tick {
    symbol   := ⟨"ES", .future, "cme", false⟩
    time     := ⟨.first, ⟨86399, 1000000000, by decide, by decide⟩⟩
    tickType := .trade
    value    := ⟨true, 150, 2, by decide, by decide⟩
    quantity := .zero
    bidPrice := none
    askPrice := none }

/-- A text of this trade. -/
def sampleTickText : String :=
  "\x7b\"type\": \"tick\", \"symbol\": " ++
  "\x7b\"ticker\": \"ES\", \"security_type\": \"future\", \"market\": \"cme\"\x7d, " ++
  "\"time\": \"-262143-01-01T23:59:60Z\", \"tick_type\": \"trade\", \"value\": \"-1.50\"\x7d"

theorem reads_back_written_tick :
    decode? Observation.ofJson? sampleTickText = some sampleTick ∧
    decode? Observation.ofJson? sampleTick.toJson.text = some sampleTick := by
  obtain ⟨-, -, -, -, -, hobservation, -⟩ := reads_back_written
  have hread : decode? Observation.ofJson? sampleTickText = some sampleTick := by decide +kernel
  have hplain : sampleTick.plain = sampleTick := by decide
  refine ⟨hread, ?_⟩
  rw [(hobservation sampleTickText sampleTick hread).1, hplain]

/-- An open interest that is a zero with a minus sign. -/
def signedZero : Observation :=
  .openInterest {
    symbol := ⟨"X", .equity, "usa", false⟩
    time   := .first
    value  := { Decimal.zero with negative := true, scale := 28, scale_le := Nat.le_refl 28 } }

/-- A text of this open interest, with a number that is rounded to zero. -/
def signedZeroText : String :=
  "\x7b\"type\": \"open_interest\", \"symbol\": " ++
  "\x7b\"ticker\": \"X\", \"security_type\": \"equity\", \"market\": \"usa\"\x7d, " ++
  "\"time\": \"-262143-01-01T00:00:00Z\", \"value\": \"-0.1e-28\"\x7d"

/-- A zero with a minus sign is read back without it. -/
theorem signedZero_not_read_back :
    decode? Observation.ofJson? signedZeroText = some signedZero ∧
    decode? Observation.ofJson? signedZero.toJson.text ≠ some signedZero ∧
    rewrite? Observation.ofJson? Observation.toJson signedZero.toJson.text ≠
      some signedZero.toJson.text := by
  have hread : decode? Observation.ofJson? signedZeroText = some signedZero := by decide +kernel
  have hagain := (Observation.roundTrips signedZeroText signedZero hread).1
  refine ⟨hread, ?_, ?_⟩
  · rw [hagain]
    decide
  · rw [rewrite?, hagain, Option.map_some]
    decide +kernel

end Json

end MarketHistory
