import MarketHistory.Json.Settings
import MarketHistory.Proofs.Json.Market

/-!
# Settings written and read again

What is written of settings is read as it was (`Settings.ofJson?_toJson`), where counts have at most
64 bits; those that were read have (`Settings.fits_of_mem_ofJson?`).
-/

namespace MarketHistory

open Json Record

namespace UniverseSettings

lemma ofJson?_toJson (u : UniverseSettings) : ofJson? u.toJson = some u := by
  rw [ofJson?, toJson]
  exact fields?_bind rfl (by decide +kernel) <|
    orDefault?_bind u.resolution.ofJson?_toJson <|
    orDefault?_bind (bool?_bool u.fillForward) <|
    orDefault?_bind (bool?_bool u.extendedHours) <|
    orDefault?_bind u.normalization.ofJson?_toJson rfl

lemma isPlain_toJson (u : UniverseSettings) : u.toJson.IsPlain :=
  ⟨trivial, trivial, trivial, trivial, trivial⟩

end UniverseSettings

/-! ### Looking back -/

namespace LookbackBudget

lemma ofJson?_toJson {b : LookbackBudget} (h : b.periods < UInt64.size) :
    ofJson? b.toJson = some b := by
  rw [ofJson?, toJson]
  exact fields?_bind rfl (by decide +kernel) <|
    required?_bind b.resolution.ofJson?_toJson <|
    required?_bind (count?_integer h) rfl

lemma isPlain_toJson (b : LookbackBudget) : b.toJson.IsPlain := ⟨trivial, trivial, trivial⟩

lemma lt_of_mem_ofJson? (j : Json) : ∀ b ∈ ofJson? j, b.periods < UInt64.size := by
  refine forall_mem_bind_any fun fields => ?_
  split
  next resolution periods =>
    exact forall_mem_bind_any fun resolution =>
      forall_mem_bind (forall_mem_required? lt_of_mem_count? periods) fun periods hperiods => by
        rintro _ ⟨⟩
        exact hperiods
  next => exact fun _ h => nomatch h

end LookbackBudget

namespace Lookback

/-- Whether all counts have at most 64 bits. -/
structure Fits (l : Lookback) : Prop where
  initialPeriods    : l.initialPeriods < UInt64.size
  escalation        : ∀ b ∈ l.escalation, b.periods < UInt64.size
  defaultEscalation : l.defaultEscalation < UInt64.size

lemma ofJson?_toJson {l : Lookback} (h : l.Fits) : ofJson? l.toJson = some l := by
  have hescalation : list? LookbackBudget.ofJson? (.ofList LookbackBudget.toJson l.escalation) =
      some l.escalation :=
    list?_ofList_self fun b hb => LookbackBudget.ofJson?_toJson (h.escalation b hb)
  rw [ofJson?, toJson]
  exact fields?_bind rfl (by decide +kernel) <|
    orDefault?_bind (count?_integer h.initialPeriods) <|
    orDefault?_bind l.minimumResolution.ofJson?_toJson <|
    orDefault?_bind hescalation <|
    orDefault?_bind (count?_integer h.defaultEscalation) rfl

lemma isPlain_toJson (l : Lookback) : l.toJson.IsPlain :=
  ⟨trivial, trivial, isPlain_ofList LookbackBudget.isPlain_toJson _, trivial, trivial⟩

lemma fits_usual : usual.Fits := ⟨by decide, by decide, by decide⟩

lemma fits_of_mem_ofJson? (j : Json) : ∀ l ∈ ofJson? j, l.Fits := by
  refine forall_mem_bind_any fun fields => ?_
  split
  next initialPeriods minimumResolution escalation defaultEscalation =>
    exact forall_mem_bind (forall_mem_orDefault? lt_of_mem_count? fits_usual.initialPeriods _)
        fun initialPeriods hinitial =>
      forall_mem_bind_any fun minimumResolution =>
      forall_mem_bind (forall_mem_orDefault? (forall_mem_list? LookbackBudget.lt_of_mem_ofJson?)
        fits_usual.escalation _) fun escalation hescalation =>
      forall_mem_bind (forall_mem_orDefault? lt_of_mem_count? fits_usual.defaultEscalation _)
        fun defaultEscalation hdefault => by
        rintro _ ⟨⟩
        exact ⟨hinitial, hescalation, hdefault⟩
  next => exact fun _ h => nomatch h

end Lookback

/-! ### Logging and all settings -/

namespace LoggingSettings

lemma ofJson?_toJson (l : LoggingSettings) : ofJson? l.toJson = some l := by
  rw [ofJson?, toJson]
  exact fields?_bind rfl (by decide +kernel) <|
    required?_bind (string?_string l.level) <|
    required?_bind (string?_string l.format) rfl

end LoggingSettings

namespace Settings

lemma ofJson?_toJson {s : Settings} (h : s.lookback.Fits) : ofJson? s.toJson = some s := by
  rw [ofJson?, toJson]
  exact fields?_bind rfl (by decide +kernel) <|
    orDefault?_bind s.defaults.ofJson?_toJson <|
    orDefault?_bind (Lookback.ofJson?_toJson h) <|
    orDefault?_bind s.logging.ofJson?_toJson <|
    orDefault?_bind s.timeZone.ofJson?_toJson rfl

lemma isPlain_toJson (s : Settings) : s.toJson.IsPlain :=
  ⟨s.defaults.isPlain_toJson, s.lookback.isPlain_toJson, ⟨trivial, trivial, trivial⟩, trivial,
    trivial⟩

lemma fits_of_mem_ofJson? (j : Json) : ∀ s ∈ ofJson? j, s.lookback.Fits := by
  refine forall_mem_bind_any fun fields => ?_
  split
  next defaults lookback logging timeZone =>
    exact forall_mem_bind_any fun defaults =>
      forall_mem_bind (forall_mem_orDefault? Lookback.fits_of_mem_ofJson? Lookback.fits_usual
        lookback) fun lookback hlookback =>
      forall_mem_bind_any fun logging => forall_mem_bind_any fun timeZone => by
        rintro _ ⟨⟩
        exact hlookback
  next => exact fun _ h => nomatch h

end Settings

end MarketHistory
