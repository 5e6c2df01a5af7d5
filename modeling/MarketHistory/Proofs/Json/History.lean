import MarketHistory.Json.History
import MarketHistory.Proofs.Json.Market
import MarketHistory.Proofs.Number.Written

/-!
# Requests and observations written and read again

What is written of a request is read as it was (`Request.ofJson?_toJson`). What is written of an
observation or a slice is read without the signs of zeros (`Observation.ofJsonWithin?_toJson`,
`Slice.ofJson?_toJson`); only a number in scientific notation is read as a zero with a sign
(`Decimal.ofScientific?_of_isSignedZero`). Times are readings of a clock throughout.
-/

namespace MarketHistory

open Json Record

/-! ### Requests -/

namespace Request

/-- Whether all times of a request are readings of a clock. -/
structure IsClock (r : Request) : Prop where
  startTime : r.startTime.time.IsClock
  endTime   : r.endTime.time.IsClock
  hours     : r.hours.IsClock

lemma ofJson?_toJson {r : Request} (h : r.IsClock) : ofJson? r.toJson = some r := by
  have hfillForward : nullable? Resolution.ofJson? (.ofOption Resolution.toJson r.fillForward) =
      some r.fillForward := by
    cases r.fillForward with
    | none => rfl
    | some resolution =>
      exact nullable?_of_ne_null (fun h => nomatch h) resolution.ofJson?_toJson
  rw [ofJson?, toJson]
  exact fields?_bind rfl (by decide +kernel) <|
    required?_bind (Instant.ofJson?_toJson h.startTime) <|
    required?_bind (Instant.ofJson?_toJson h.endTime) <|
    required?_bind r.dataType.ofJson?_toJson <|
    required?_bind r.symbol.ofJson?_toJson <|
    required?_bind r.resolution.ofJson?_toJson <|
    required?_bind (TradingHours.ofJson?_toJson h.hours) <|
    required?_bind r.dataTimeZone.ofJson?_toJson <|
    orDefault?_bind hfillForward <|
    required?_bind (bool?_bool r.extendedHours) <|
    required?_bind (bool?_bool r.isCustom) <|
    required?_bind r.normalization.ofJson?_toJson <|
    required?_bind r.tickType.ofJson?_toJson rfl

lemma isPlain_toJson (r : Request) : r.toJson.IsPlain :=
  ⟨trivial, trivial, trivial, r.symbol.isPlain_toJson, trivial, r.hours.isPlain_toJson, trivial,
    isPlain_ofOption (f := Resolution.toJson) (fun _ => trivial) _, trivial, trivial, trivial,
    trivial, trivial⟩

lemma isClock_of_mem_ofJson? (j : Json) : ∀ r ∈ ofJson? j, r.IsClock := by
  refine forall_mem_bind_any fun fields => ?_
  split
  next startTime endTime _ _ _ hours _ _ _ _ _ _ =>
    exact forall_mem_bind (forall_mem_required? Instant.isClock_of_mem_ofJson? startTime)
        fun startTime hstart =>
      forall_mem_bind (forall_mem_required? Instant.isClock_of_mem_ofJson? endTime)
        fun endTime hend =>
      forall_mem_bind_any fun _ => forall_mem_bind_any fun _ => forall_mem_bind_any fun _ =>
      forall_mem_bind (forall_mem_required? TradingHours.isClock_of_mem_ofJson? hours)
        fun hours hhours =>
      forall_mem_bind_any fun _ => forall_mem_bind_any fun _ => forall_mem_bind_any fun _ =>
      forall_mem_bind_any fun _ => forall_mem_bind_any fun _ => forall_mem_bind_any fun _ => by
        rintro _ ⟨⟩
        exact ⟨hstart, hend, hhours⟩
  next => exact fun _ h => nomatch h

end Request

/-! ### Prices -/

namespace Decimal

lemma ofJson?_toJson (d : Decimal) : ofJson? d.toJson = some d.plain := by
  rw [toJson, ofJson?, ofText?_text]

/-- Only text in scientific notation is read as a zero with a minus sign. -/
lemma ofScientific?_of_isSignedZero {j : Json} {d : Decimal} (h : ofJson? j = some d)
    (hzero : d.IsSignedZero) : ∃ s, j = .string s ∧ ofScientific? s.toList = some d := by
  have hnumeral {n : Numeral} (h : ofNumeral? n = some d) : False := by
    obtain ⟨x, -, hx⟩ := Option.bind_eq_some_iff.mp h
    exact not_isSignedZero_of_ofPositional? hx hzero
  cases j with
  | string s =>
    refine ⟨s, rfl, ?_⟩
    rw [ofJson?, ofText?] at h
    cases hpositional : ofPositional? s.toList with
    | none =>
      rw [hpositional] at h
      exact h
    | some d' =>
      rw [hpositional] at h
      cases h
      exact absurd hzero (not_isSignedZero_of_ofPositional? hpositional)
  | integer n =>
    rw [ofJson?] at h
    split at h
    next => exact absurd hzero (not_isSignedZero_of_ofParts? h)
    next => exact (hnumeral h).elim
  | real n => exact (hnumeral h).elim
  | _ => cases h

end Decimal

namespace Prices

/-- The prices without the signs of zeros. -/
def plain (p : Prices) : Prices :=
  ⟨p.opening.plain, p.high.plain, p.low.plain, p.closing.plain⟩

lemma ofJson?_toJson (p : Prices) : ofJson? p.toJson = some p.plain := by
  rw [ofJson?, toJson]
  exact fields?_bind rfl (by decide +kernel) <|
    required?_bind p.opening.ofJson?_toJson <|
    required?_bind p.high.ofJson?_toJson <|
    required?_bind p.low.ofJson?_toJson <|
    required?_bind p.closing.ofJson?_toJson rfl

lemma isPlain_toJson (p : Prices) : p.toJson.IsPlain :=
  ⟨trivial, trivial, trivial, trivial, trivial⟩

lemma keep?_toJson (p : Prices) (levels : Nat) : keep? (levels + 1) p.toJson = some p.toJson :=
  keep?_object (by simp) (by simp [keep?, Decimal.toJson])

end Prices

/-! ### Observations -/

/-- Whether the times of an observation are readings of a clock. -/
structure Observation.IsClock (o : Observation) : Prop where
  time    : o.time.time.IsClock
  endTime : o.endTime.time.IsClock

namespace TradeBar

/-- The bar without the signs of zeros. -/
def plain (b : TradeBar) : TradeBar := { b with prices := b.prices.plain, volume := b.volume.plain }

lemma ofJson?_members {b : TradeBar} (htime : b.time.time.IsClock)
    (hend : b.endTime.time.IsClock) : ofJson? (.object b.members) = some b.plain := by
  rw [ofJson?, members]
  exact fields?_bind rfl (by decide +kernel) <|
    required?_bind b.symbol.ofJson?_toJson <|
    required?_bind (Instant.ofJson?_toJson htime) <|
    required?_bind (Instant.ofJson?_toJson hend) <|
    required?_bind b.prices.opening.ofJson?_toJson <|
    required?_bind b.prices.high.ofJson?_toJson <|
    required?_bind b.prices.low.ofJson?_toJson <|
    required?_bind b.prices.closing.ofJson?_toJson <|
    required?_bind b.volume.ofJson?_toJson rfl

lemma isClock_of_mem_ofJson? (j : Json) : ∀ b ∈ ofJson? j, (Observation.tradeBar b).IsClock := by
  refine forall_mem_bind_any fun fields => ?_
  split
  next symbol time endTime _ _ _ _ _ =>
    exact forall_mem_bind_any fun symbol =>
      forall_mem_bind (forall_mem_required? Instant.isClock_of_mem_ofJson? time)
        fun time htime =>
      forall_mem_bind (forall_mem_required? Instant.isClock_of_mem_ofJson? endTime)
        fun endTime hend =>
      forall_mem_bind_any fun _ => forall_mem_bind_any fun _ => forall_mem_bind_any fun _ =>
      forall_mem_bind_any fun _ => forall_mem_bind_any fun _ => by
        rintro _ ⟨⟩
        exact ⟨htime, hend⟩
  next => exact fun _ h => nomatch h

end TradeBar

namespace QuoteBar

/-- The bar without the signs of zeros. -/
def plain (b : QuoteBar) : QuoteBar :=
  { b with bid := b.bid.map Prices.plain, ask := b.ask.map Prices.plain }

lemma fields?_members (b : QuoteBar) :
    fields? 5 ["symbol", "time", "end_time", "bid", "ask"] (.object b.members) =
      some [some b.symbol.toJson, some b.time.toJson, some b.endTime.toJson,
        b.bid.map Prices.toJson, b.ask.map Prices.toJson] := by
  obtain ⟨symbol, time, endTime, bid, ask⟩ := b
  cases bid <;> cases ask <;> rfl

lemma ofJson?_members {b : QuoteBar} (htime : b.time.time.IsClock)
    (hend : b.endTime.time.IsClock) : ofJson? (.object b.members) = some b.plain := by
  rw [ofJson?, fields?_members, Option.bind_eq_bind, Option.bind_some]
  exact required?_bind b.symbol.ofJson?_toJson <|
    required?_bind (Instant.ofJson?_toJson htime) <|
    required?_bind (Instant.ofJson?_toJson hend) <|
    optional?_bind (fun _ h => nomatch h) Prices.ofJson?_toJson <|
    optional?_bind (fun _ h => nomatch h) Prices.ofJson?_toJson rfl

lemma isClock_of_mem_ofJson? (j : Json) : ∀ b ∈ ofJson? j, (Observation.quoteBar b).IsClock := by
  refine forall_mem_bind_any fun fields => ?_
  split
  next symbol time endTime _ _ =>
    exact forall_mem_bind_any fun symbol =>
      forall_mem_bind (forall_mem_required? Instant.isClock_of_mem_ofJson? time)
        fun time htime =>
      forall_mem_bind (forall_mem_required? Instant.isClock_of_mem_ofJson? endTime)
        fun endTime hend =>
      forall_mem_bind_any fun _ => forall_mem_bind_any fun _ => by
        rintro _ ⟨⟩
        exact ⟨htime, hend⟩
  next => exact fun _ h => nomatch h

end QuoteBar

namespace Tick

/-- The tick without the signs of zeros. -/
def plain (t : Tick) : Tick :=
  { t with
    value    := t.value.plain
    quantity := t.quantity.plain
    bidPrice := t.bidPrice.map Decimal.plain
    askPrice := t.askPrice.map Decimal.plain }

lemma fields?_members (t : Tick) :
    fields? 7 ["symbol", "time", "tick_type", "value", "quantity", "bid_price", "ask_price"]
        (.object t.members) =
      some [some t.symbol.toJson, some t.time.toJson, some t.tickType.toJson, some t.value.toJson,
        some t.quantity.toJson, t.bidPrice.map Decimal.toJson, t.askPrice.map Decimal.toJson] := by
  obtain ⟨symbol, time, tickType, value, quantity, bidPrice, askPrice⟩ := t
  cases bidPrice <;> cases askPrice <;> rfl

lemma ofJson?_members {t : Tick} (htime : t.time.time.IsClock) :
    ofJson? (.object t.members) = some t.plain := by
  rw [ofJson?, fields?_members, Option.bind_eq_bind, Option.bind_some]
  exact required?_bind t.symbol.ofJson?_toJson <|
    required?_bind (Instant.ofJson?_toJson htime) <|
    required?_bind t.tickType.ofJson?_toJson <|
    required?_bind t.value.ofJson?_toJson <|
    orDefault?_bind t.quantity.ofJson?_toJson <|
    optional?_bind (fun _ h => nomatch h) Decimal.ofJson?_toJson <|
    optional?_bind (fun _ h => nomatch h) Decimal.ofJson?_toJson rfl

lemma isClock_of_mem_ofJson? (j : Json) : ∀ t ∈ ofJson? j, (Observation.tick t).IsClock := by
  refine forall_mem_bind_any fun fields => ?_
  split
  next symbol time _ _ _ _ _ =>
    exact forall_mem_bind_any fun symbol =>
      forall_mem_bind (forall_mem_required? Instant.isClock_of_mem_ofJson? time)
        fun time htime =>
      forall_mem_bind_any fun _ => forall_mem_bind_any fun _ => forall_mem_bind_any fun _ =>
      forall_mem_bind_any fun _ => forall_mem_bind_any fun _ => by
        rintro _ ⟨⟩
        exact ⟨htime, htime⟩
  next => exact fun _ h => nomatch h

end Tick

namespace OpenInterest

/-- The open interest without the sign of zero. -/
def plain (o : OpenInterest) : OpenInterest := { o with value := o.value.plain }

lemma ofJson?_members {o : OpenInterest} (htime : o.time.time.IsClock) :
    ofJson? (.object o.members) = some o.plain := by
  rw [ofJson?, members]
  exact fields?_bind rfl (by decide +kernel) <|
    required?_bind o.symbol.ofJson?_toJson <|
    required?_bind (Instant.ofJson?_toJson htime) <|
    required?_bind o.value.ofJson?_toJson rfl

lemma isClock_of_mem_ofJson? (j : Json) :
    ∀ o ∈ ofJson? j, (Observation.openInterest o).IsClock := by
  refine forall_mem_bind_any fun fields => ?_
  split
  next symbol time value =>
    exact forall_mem_bind_any fun symbol =>
      forall_mem_bind (forall_mem_required? Instant.isClock_of_mem_ofJson? time)
        fun time htime =>
      forall_mem_bind_any fun value => by
        rintro _ ⟨⟩
        exact ⟨htime, htime⟩
  next => exact fun _ h => nomatch h

end OpenInterest

namespace Observation

/-- The observation without the signs of zeros. -/
def plain : Observation → Observation
  | tradeBar b     => tradeBar b.plain
  | quoteBar b     => quoteBar b.plain
  | tick t         => tick t.plain
  | openInterest o => openInterest o.plain

/-- The members of an observation besides its tag. -/
def members : Observation → List (String × Json)
  | tradeBar b     => b.members
  | quoteBar b     => b.members
  | tick t         => t.members
  | openInterest o => o.members

lemma toJson_eq (o : Observation) :
    o.toJson = .object (("type", .string o.dataType.name) :: o.members) := by
  cases o <;> rfl

lemma members_ne_nil (o : Observation) : o.members ≠ [] := by
  cases o <;> exact List.cons_ne_nil _ _

/-- No member of an observation is taken for its tag. -/
lemma name_ne_type (o : Observation) : ∀ m ∈ o.members, m.1 ≠ "type" := by
  cases o with
  | tradeBar b => simp [members, TradeBar.members]
  | quoteBar b =>
    cases hbid : b.bid <;> cases hask : b.ask <;>
      simp [members, QuoteBar.members, optionalMember, hbid, hask]
  | tick t =>
    cases hbid : t.bidPrice <;> cases hask : t.askPrice <;>
      simp [members, Tick.members, optionalMember, hbid, hask]
  | openInterest o => simp [members, OpenInterest.members]

/-- What a member of an observation can be. -/
inductive IsPart : Json → Prop
  | symbol (s : Symbol) : IsPart s.toJson
  | text (s : String)   : IsPart (.string s)
  | prices (p : Prices) : IsPart p.toJson

namespace IsPart

lemma keep? {j : Json} (h : IsPart j) (levels : Nat) : j.keep? (levels + 1) = some j := by
  cases h with
  | symbol s => exact s.keep?_toJson levels
  | text s   => rfl
  | prices p => exact p.keep?_toJson levels

lemma isPlain {j : Json} (h : IsPart j) : j.IsPlain := by
  cases h with
  | symbol s => exact s.isPlain_toJson
  | text s   => exact trivial
  | prices p => exact p.isPlain_toJson

end IsPart

lemma isPart_of_mem_members (o : Observation) : ∀ m ∈ o.members, IsPart m.2 := by
  have htime (t : Instant) : IsPart t.toJson := .text _
  have htype (t : TickType) : IsPart t.toJson := .text _
  have hdecimal (d : Decimal) : IsPart d.toJson := .text _
  cases o with
  | tradeBar b => simp [members, TradeBar.members, IsPart.symbol, htime, hdecimal]
  | quoteBar b =>
    cases hbid : b.bid <;> cases hask : b.ask <;>
      simp [members, QuoteBar.members, optionalMember, hbid, hask, IsPart.symbol, IsPart.prices,
        htime]
  | tick t =>
    cases hbid : t.bidPrice <;> cases hask : t.askPrice <;>
      simp [members, Tick.members, optionalMember, hbid, hask, IsPart.symbol, htime, htype,
        hdecimal]
  | openInterest o => simp [members, OpenInterest.members, IsPart.symbol, htime, hdecimal]

/-- An observation nests in two levels, that of its members and that of their parts. -/
lemma tagged?_toJson (o : Observation) (levels : Nat) :
    tagged? (levels + 2) o.toJson = some (o.dataType.name, .object o.members) := by
  rw [toJson_eq]
  exact tagged?_of_kept o.members_ne_nil o.name_ne_type fun m hm =>
    (o.isPart_of_mem_members m hm).keep? levels

lemma ofJsonWithin?_toJson {o : Observation} (h : o.IsClock) (levels : Nat) :
    ofJsonWithin? (levels + 2) o.toJson = some o.plain := by
  rw [ofJsonWithin?, tagged?_toJson, Option.bind_eq_bind, Option.bind_some]
  dsimp only
  rw [DataType.ofName?_name]
  cases o with
  | tradeBar b =>
    show (TradeBar.ofJson? (.object b.members)).bind _ = _
    rw [TradeBar.ofJson?_members h.time h.endTime]
    rfl
  | quoteBar b =>
    show (QuoteBar.ofJson? (.object b.members)).bind _ = _
    rw [QuoteBar.ofJson?_members h.time h.endTime]
    rfl
  | tick t =>
    show (Tick.ofJson? (.object t.members)).bind _ = _
    rw [Tick.ofJson?_members h.time]
    rfl
  | openInterest o =>
    show (OpenInterest.ofJson? (.object o.members)).bind _ = _
    rw [OpenInterest.ofJson?_members h.time]
    rfl

lemma isPlain_toJson (o : Observation) : o.toJson.IsPlain := by
  rw [toJson_eq]
  exact ⟨trivial, areMembersPlain_iff.mpr fun m hm => (o.isPart_of_mem_members m hm).isPlain⟩

lemma isClock_of_mem_ofJsonWithin? (levels : Nat) (j : Json) :
    ∀ o ∈ ofJsonWithin? levels j, o.IsClock := by
  refine forall_mem_bind_any fun tagged => ?_
  dsimp only
  split
  · exact forall_mem_bind (TradeBar.isClock_of_mem_ofJson? _) fun b hb => by
      rintro _ ⟨⟩
      exact hb
  · exact forall_mem_bind (QuoteBar.isClock_of_mem_ofJson? _) fun b hb => by
      rintro _ ⟨⟩
      exact hb
  · exact forall_mem_bind (Tick.isClock_of_mem_ofJson? _) fun b hb => by
      rintro _ ⟨⟩
      exact hb
  · exact forall_mem_bind (OpenInterest.isClock_of_mem_ofJson? _) fun b hb => by
      rintro _ ⟨⟩
      exact hb
  · exact fun _ h => nomatch h

end Observation

/-! ### Slices -/

namespace Slice

/-- The slice without the signs of zeros. -/
def plain (s : Slice) : Slice := { s with data := s.data.map Observation.plain }

/-- Whether all times of a slice are readings of a clock. -/
structure IsClock (s : Slice) : Prop where
  time : s.time.time.IsClock
  data : ∀ o ∈ s.data, o.IsClock

lemma ofJson?_toJson {s : Slice} (h : s.IsClock) : ofJson? s.toJson = some s.plain := by
  have hdata : list? (Observation.ofJsonWithin? (nestingLimit - 2))
      (.ofList Observation.toJson s.data) = some (s.data.map Observation.plain) :=
    list?_ofList fun o ho => Observation.ofJsonWithin?_toJson (h.data o ho) 123
  rw [ofJson?, toJson]
  exact fields?_bind rfl (by decide +kernel) <|
    required?_bind (Instant.ofJson?_toJson h.time) <|
    required?_bind hdata rfl

lemma isPlain_toJson (s : Slice) : s.toJson.IsPlain :=
  ⟨trivial, isPlain_ofList Observation.isPlain_toJson _, trivial⟩

lemma isClock_of_mem_ofJson? (j : Json) : ∀ s ∈ ofJson? j, s.IsClock := by
  refine forall_mem_bind_any fun fields => ?_
  split
  next time data =>
    exact forall_mem_bind (forall_mem_required? Instant.isClock_of_mem_ofJson? time)
        fun time htime =>
      forall_mem_bind (forall_mem_required?
        (forall_mem_list? (Observation.isClock_of_mem_ofJsonWithin? _)) data) fun data hdata => by
        rintro _ ⟨⟩
        exact ⟨htime, hdata⟩
  next => exact fun _ h => nomatch h

end Slice

end MarketHistory
