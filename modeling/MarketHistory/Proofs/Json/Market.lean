import MarketHistory.Json.Market
import MarketHistory.Proofs.Json.Fields
import MarketHistory.Proofs.Time.Written

/-!
# Instruments and hours written and read again

What is written of names, times, symbols, trading hours and subscriptions is read as it was
(`ofJson?_toJson`), where times are readings of a clock; those that were read are
(`isClock_of_mem_ofJson?`).
-/

namespace MarketHistory

open Json Record

/-! ### Names and times -/

lemma Resolution.ofJson?_toJson (r : Resolution) : ofJson? r.toJson = some r := ofName?_name r

lemma SecurityType.ofJson?_toJson (t : SecurityType) : ofJson? t.toJson = some t :=
  ofName?_name t

lemma TickType.ofJson?_toJson (t : TickType) : ofJson? t.toJson = some t := ofName?_name t

lemma DataType.ofJson?_toJson (t : DataType) : ofJson? t.toJson = some t := ofName?_name t

lemma Normalization.ofJson?_toJson (n : Normalization) : ofJson? n.toJson = some n :=
  ofName?_name n

lemma TimeZone.ofJson?_toJson (z : TimeZone) : ofJson? z.toJson = some z := ofName?_name z

lemma Date.ofJson?_toJson (d : Date) : ofJson? d.toJson = some d := by
  rw [toJson, ofJson?, string?, Option.bind_some, ofText?_text]

lemma TimeOfDay.ofJson?_toJson {t : TimeOfDay} (h : t.IsClock) : ofJson? t.toJson = some t := by
  rw [toJson, ofJson?, string?, Option.bind_some, ofText?_text h]

lemma TimeOfDay.isClock_of_mem_ofJson? (j : Json) : ∀ t ∈ ofJson? j, t.IsClock := by
  intro t ht
  obtain ⟨s, -, ht⟩ := Option.bind_eq_some_iff.mp ht
  exact isClock_of_ofText? ht

lemma Instant.ofJson?_toJson {t : Instant} (h : t.time.IsClock) : ofJson? t.toJson = some t := by
  rw [toJson, ofJson?, string?, Option.bind_some, ofText?_text h]

lemma Instant.isClock_of_mem_ofJson? (j : Json) : ∀ t ∈ ofJson? j, t.time.IsClock := by
  intro t ht
  obtain ⟨s, -, ht⟩ := Option.bind_eq_some_iff.mp ht
  exact isClock_of_ofText? ht

/-! ### Symbols -/

namespace Symbol

lemma ofJson?_toJson (s : Symbol) : ofJson? s.toJson = some s := by
  rw [ofJson?, toJson]
  exact fields?_bind rfl (by decide +kernel) <|
    required?_bind (string?_string s.ticker) <|
    required?_bind s.securityType.ofJson?_toJson <|
    required?_bind (string?_string s.market) <|
    orDefault?_bind (bool?_bool s.canonical) rfl

lemma isPlain_toJson (s : Symbol) : s.toJson.IsPlain :=
  ⟨trivial, trivial, trivial, trivial, trivial⟩

lemma keep?_toJson (s : Symbol) (levels : Nat) : keep? (levels + 1) s.toJson = some s.toJson :=
  keep?_object (by simp) (by simp [keep?, SecurityType.toJson])

end Symbol

/-! ### Trading hours -/

namespace TradingHours

/-- Whether both ends of a session are readings of a clock. -/
structure IsClock (h : TradingHours) : Prop where
  opens  : h.opens.IsClock
  closes : h.closes.IsClock

lemma ofJson?_toJson {h : TradingHours} (hclock : h.IsClock) : ofJson? h.toJson = some h := by
  have hholidays : list? Date.ofJson? (.ofList Date.toJson h.holidays) = some h.holidays :=
    list?_ofList_self fun d _ => d.ofJson?_toJson
  rw [ofJson?, toJson]
  exact fields?_bind rfl (by decide +kernel) <|
    required?_bind h.timeZone.ofJson?_toJson <|
    required?_bind (TimeOfDay.ofJson?_toJson hclock.opens) <|
    required?_bind (TimeOfDay.ofJson?_toJson hclock.closes) <|
    required?_bind (bool?_bool h.closedOnWeekends) <|
    orDefault?_bind hholidays rfl

lemma isClock_of_mem_ofJson? (j : Json) : ∀ h ∈ ofJson? j, h.IsClock := by
  refine forall_mem_bind_any fun fields => ?_
  split
  next timeZone opens closes closedOnWeekends holidays =>
    exact forall_mem_bind_any fun timeZone =>
      forall_mem_bind (forall_mem_required? TimeOfDay.isClock_of_mem_ofJson? opens)
        fun opens hopens =>
      forall_mem_bind (forall_mem_required? TimeOfDay.isClock_of_mem_ofJson? closes)
        fun closes hcloses =>
      forall_mem_bind_any fun closedOnWeekends => forall_mem_bind_any fun holidays => by
        rintro _ ⟨⟩
        exact ⟨hopens, hcloses⟩
  next => exact fun _ h => nomatch h

lemma isPlain_toJson (h : TradingHours) : h.toJson.IsPlain :=
  ⟨trivial, trivial, trivial, trivial, isPlain_ofList (f := Date.toJson) (fun _ => trivial) _,
    trivial⟩

end TradingHours

/-! ### Subscriptions -/

namespace Subscription

lemma ofJson?_toJson (s : Subscription) : ofJson? s.toJson = some s := by
  rw [ofJson?, toJson]
  exact fields?_bind rfl (by decide +kernel) <|
    required?_bind s.dataType.ofJson?_toJson <|
    required?_bind s.symbol.ofJson?_toJson <|
    required?_bind s.resolution.ofJson?_toJson <|
    required?_bind s.dataTimeZone.ofJson?_toJson <|
    required?_bind s.exchangeTimeZone.ofJson?_toJson <|
    required?_bind (bool?_bool s.fillForward) <|
    required?_bind (bool?_bool s.extendedHours) <|
    required?_bind (bool?_bool s.isCustom) <|
    required?_bind (bool?_bool s.isInternal) <|
    required?_bind s.tickType.ofJson?_toJson <|
    required?_bind s.normalization.ofJson?_toJson rfl

lemma isPlain_toJson (s : Subscription) : s.toJson.IsPlain :=
  ⟨trivial, s.symbol.isPlain_toJson, trivial, trivial, trivial, trivial, trivial, trivial, trivial,
    trivial, trivial, trivial⟩

end Subscription

end MarketHistory
