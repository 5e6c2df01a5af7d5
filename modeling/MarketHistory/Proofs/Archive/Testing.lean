import MarketHistory.Proofs.Archive.Selection

/-!
# Tests without an answer

An exchange cannot be asked whether it is open where its clock shows no date, and then an archive
that has to ask has no answer. Another test of the observations leads to the same answer wherever it
has the same results (`fetchBy?_mono`). An archive that answers gives what `Archive.fetch` gives
(`eq_fetch_of_fetch?`), and it does answer if every observation that it might have to test begins
where the clock of the exchange shows a date (`fetch?_eq_some`).
-/

namespace MarketHistory

/-- Where a function has the same results as another one, so it has for a list. -/
lemma mapM_mono {α β : Type} {f g : α → Option β} {as : List α}
    (h : ∀ a ∈ as, ∀ b, f a = some b → g a = some b) {bs : List β} (hbs : as.mapM f = some bs) :
    as.mapM g = some bs := by
  induction as generalizing bs with
  | nil => exact hbs
  | cons a as ih =>
    rw [List.mapM_cons] at hbs ⊢
    obtain ⟨b, hb, hbs⟩ := Option.bind_eq_some_iff.mp hbs
    obtain ⟨rest, hrest, hbs⟩ := Option.bind_eq_some_iff.mp hbs
    rw [h a List.mem_cons_self b hb, ih (fun a' ha' => h a' (List.mem_cons_of_mem a ha')) hrest]
    exact hbs

lemma mapM_eq_some_map {α β : Type} {f : α → Option β} {g : α → β} {as : List α}
    (h : ∀ a ∈ as, f a = some (g a)) : as.mapM f = some (as.map g) := by
  induction as with
  | nil => rfl
  | cons a as ih =>
    rw [List.mapM_cons, h a List.mem_cons_self,
      ih fun a' ha' => h a' (List.mem_cons_of_mem a ha')]
    rfl

namespace Archive

/-! ### Observations that pass -/

section Passing

variable {test test' : Observation → Option Bool} {os : List Observation}

lemma passing?_mono (h : ∀ o ∈ os, ∀ b, test o = some b → test' o = some b)
    {found : List Observation} (hfound : passing? test os = some found) :
    passing? test' os = some found := by
  induction os generalizing found with
  | nil => exact hfound
  | cons o os ih =>
    obtain ⟨b, hb, hfound⟩ := Option.bind_eq_some_iff.mp hfound
    obtain ⟨rest, hrest, hfound⟩ := Option.bind_eq_some_iff.mp hfound
    rw [passing?, h o List.mem_cons_self b hb,
      ih (fun o' ho' => h o' (List.mem_cons_of_mem o ho')) hrest]
    exact hfound

/-- A test that always has an answer chooses by these answers. -/
lemma passing?_eq_some {p : Observation → Bool} (h : ∀ o ∈ os, test o = some (p o)) :
    passing? test os = some (os.filter p) := by
  induction os with
  | nil => rfl
  | cons o os ih =>
    rw [passing?, h o List.mem_cons_self, ih fun o' ho' => h o' (List.mem_cons_of_mem o ho'),
      List.filter_cons]
    rfl

end Passing

/-! ### Answers by a test -/

variable {a : Archive} {test test' : Request → Observation → Option Bool} {batch : List Request}

/-- Where a test has the same results as another one, it leads to the same answer. -/
lemma fetchBy?_mono
    (h : ∀ r ∈ batch, ∀ o ∈ a.inRange r, ∀ b, test r o = some b → test' r o = some b)
    {answer : Traced (Except QueryError (List Slice))}
    (hanswer : a.fetchBy? test batch = some answer) : a.fetchBy? test' batch = some answer := by
  rw [fetchBy?] at hanswer ⊢
  cases hfailure : a.failure with
  | some reason =>
    rw [hfailure] at hanswer
    exact hanswer
  | none =>
    rw [hfailure] at hanswer
    obtain ⟨found, hfound, rfl⟩ := Option.map_eq_some_iff.mp hanswer
    have hfound' := mapM_mono (fun r hr _ => passing?_mono (h r hr)) hfound
    exact Option.map_eq_some_iff.mpr ⟨found, hfound', rfl⟩

/-- A test that always has the answers of the archive leads to those of the archive. -/
lemma fetchBy?_eq_some
    (h : ∀ r ∈ batch, ∀ o ∈ a.inRange r, test r o = some (answers a.clocks r o)) :
    a.fetchBy? test batch = some (a.fetch batch) := by
  have hfound : (batch.mapM fun r => passing? (test r) (a.inRange r)) =
      some (batch.map a.matching) :=
    mapM_eq_some_map fun r hr => passing?_eq_some (h r hr)
  rw [fetchBy?, hfound, fetch, slices, List.flatMap_def]
  cases a.failure <;> rfl

/-! ### Answers of the archive -/

variable {clocks : ZoneClocks} {r : Request} {o : Observation}

lemma answers_of_answers? {b : Bool} (h : answers? clocks r o = some b) :
    answers clocks r o = b := by
  rw [answers?] at h
  rw [answers]
  split at h
  next haccepts =>
    rw [haccepts, Bool.true_and]
    split at h
    next hregular =>
      rw [hregular, TradingHours.isOpen, h]
      rfl
    next hregular =>
      rw [Bool.not_eq_true] at hregular
      rw [hregular, ← Option.some.inj h]
      rfl
  next haccepts =>
    rw [Bool.not_eq_true] at haccepts
    rw [haccepts, ← Option.some.inj h]
    rfl

/-- A clock that shows a date tells whether the exchange is open. -/
lemma isSome_answers? (h : (clocks.reading? r.hours.timeZone o.time).isSome = true) :
    (answers? clocks r o).isSome = true := by
  rw [answers?]
  split
  · split
    · rw [TradingHours.isOpen?, Option.isSome_map]
      exact h
    · rfl
  · rfl

/-- An archive that answers gives the observations that answer, as far as that can be told. -/
lemma eq_fetch_of_fetch? {answer : Traced (Except QueryError (List Slice))}
    (h : a.fetch? batch = some answer) : answer = a.fetch batch := by
  have hall : a.fetchBy? (fun r o => some (answers a.clocks r o)) batch = some answer :=
    fetchBy?_mono (fun r _ o _ b hb => congrArg some (answers_of_answers? hb)) h
  rw [fetchBy?_eq_some fun r _ o _ => rfl] at hall
  exact (Option.some.inj hall).symm

/-- An archive answers if the observations in the range of the requests begin where the clocks show a
date. -/
theorem fetch?_eq_some (h : ∀ r ∈ batch, ∀ o ∈ a.inRange r,
      (a.clocks.reading? r.hours.timeZone o.time).isSome = true) :
    a.fetch? batch = some (a.fetch batch) := by
  refine fetchBy?_eq_some fun r hr o ho => ?_
  obtain ⟨b, hb⟩ := Option.isSome_iff_exists.mp (isSome_answers? (h r hr o ho))
  rw [hb, answers_of_answers? hb]

end Archive

end MarketHistory
