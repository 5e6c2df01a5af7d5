import MarketHistory.Proofs.Desk.Reached
import MarketHistory.Proofs.Desk.Transcript

/-!
# The course of a warm-up

What the changes of a desk make of its warm-up, in whatever order they come. Each change acts on
every part of the state by itself (`locked_after`, `spec_after`, `warmingUp_after`,
`observers_after`), and a whole run follows from that, with the notifications on the way
(`warmUp_afterAll`).
-/

namespace MarketHistory

/-! ### Changes of the warm-up -/

namespace Change

/-- The specification that a change sets, if it does. -/
def spec? : Change → Option WarmUpSpec
  | setWarmUp spec => some spec
  | _              => none

/-- Whether a change ends the setup. -/
def isLock : Change → Bool
  | lockWarmUp => true
  | _          => false

/-- Whether a change registers an observer. -/
def isObserve : Change → Bool
  | observeWarmUp => true
  | _             => false

/-- Whether a change ends the warm-up. -/
def isFinish : Change → Bool
  | finishWarmUp => true
  | _            => false

/-- How many observers are registered before the warm-up ends. -/
def early (changes : List Change) : Nat := (changes.takeWhile (!·.isFinish)).countP isObserve

/-- How many observers are registered after the warm-up has ended. -/
def late (changes : List Change) : Nat := (changes.dropWhile (!·.isFinish)).countP isObserve

lemma isObserve_eq_false {c : Change} (h : c.isFinish = true) : c.isObserve = false := by
  cases c <;> first | rfl | cases h

lemma spec?_eq_none {c : Change} (h : c.isLock = true) : c.spec? = none := by
  cases c <;> first | rfl | cases h

lemma early_cons (c : Change) (changes : List Change) :
    early (c :: changes) = if c.isFinish then 0 else early changes + c.isObserve.toNat := by
  rw [early, List.takeWhile_cons]
  cases hfinish : c.isFinish with
  | true => rfl
  | false =>
    show List.countP isObserve (c :: _) = _
    rw [List.countP_cons, early]
    cases c.isObserve <;> rfl

lemma late_cons (c : Change) (changes : List Change) :
    late (c :: changes) = if c.isFinish then changes.countP isObserve else late changes := by
  rw [late, List.dropWhile_cons]
  cases hfinish : c.isFinish with
  | true =>
    show List.countP isObserve (c :: changes) = _
    rw [List.countP_cons, isObserve_eq_false hfinish]
    rfl
  | false => rfl

end Change

/-- The observers that are notified, in order. -/
def Traced.notifications {α : Type} (x : Traced α) : List Nat :=
  x.events.filterMap fun
    | .notified observer => some observer
    | _                  => none

/-! ### One change -/

namespace WarmUp

/-- The warm-up after a change of the desk. -/
def next (w : WarmUp) : Change → WarmUp
  | .setWarmUp spec => if w.locked then w else { w with spec := some spec }
  | .lockWarmUp     => w.lock.value
  | .observeWarmUp  => w.observe
  | .finishWarmUp   => w.finish.value
  | _               => w

variable (w : WarmUp) (c : Change)

/-- Only the end of the setup locks, and nothing unlocks. -/
lemma locked_next : (w.next c).locked = (w.locked || c.isLock) := by
  rcases w with ⟨spec, _ | _, _ | _, observers⟩ <;> cases c <;> rfl

/-- Until the setup ends, what is set replaces what was set. -/
lemma spec_next : (w.next c).spec = if w.locked then w.spec else c.spec?.or w.spec := by
  rcases w with ⟨spec, _ | _, _ | _, observers⟩ <;> cases c <;> rfl

/-- Only finishing ends the warm-up. -/
lemma warmingUp_next : (w.next c).warmingUp = (w.warmingUp && !c.isFinish) := by
  rcases w with ⟨spec, _ | _, _ | _, observers⟩ <;> cases c <;> rfl

/-- Observers are added at the end, and all are notified where the warm-up ends. -/
lemma observers_next :
    (w.next c).observers =
      if c.isObserve then w.observers ++ [0]
      else if w.warmingUp && c.isFinish then w.observers.map (· + 1)
      else w.observers := by
  rcases w with ⟨spec, _ | _, _ | _, observers⟩ <;> cases c <;> rfl

end WarmUp

namespace Desk

variable (d : Desk) (c : Change)

lemma warmUp_after : (d.after c).warmUp = d.warmUp.next c := by
  cases c with
  | advanceClock span =>
    simp only [after, change?]
    cases d.now.add? span <;> rfl
  | setWarmUp spec =>
    simp only [after, change?, WarmUp.set, WarmUp.next]
    cases d.warmUp.locked <;> rfl
  | _ => rfl

/-- Observers are notified where the warm-up ends, each of them once, and nowhere else. -/
lemma notifications_change? :
    (d.change? c).notifications =
      if d.warmUp.warmingUp && c.isFinish then List.range d.warmUp.observers.length else [] := by
  cases c with
  | finishWarmUp =>
    simp only [change?, WarmUp.finish, Change.isFinish, Bool.and_true]
    cases d.warmUp.warmingUp with
    | true =>
      show List.filterMap _ (_ :: ((List.range _).map Event.notified ++ []) ++ []) = List.range _
      simp [List.filterMap_map]
    | false => rfl
  | subscribe s =>
    simp only [change?, Catalog.add, Change.isFinish, Bool.and_false]
    split <;> rfl
  | advanceClock span =>
    simp only [change?, Change.isFinish, Bool.and_false]
    cases d.now.add? span <;> rfl
  | setWarmUp spec =>
    simp only [change?, WarmUp.set, Change.isFinish, Bool.and_false]
    cases d.warmUp.locked <;> rfl
  | lockWarmUp =>
    simp only [change?, WarmUp.lock, Change.isFinish, Bool.and_false]
    cases d.warmUp.locked <;> rfl
  | _ => exact (if_neg (by simp [Change.isFinish])).symm

/-! ### Whole runs -/

variable (changes : List Change)

lemma locked_afterAll :
    (d.afterAll changes).warmUp.locked = (d.warmUp.locked || changes.any Change.isLock) := by
  induction changes generalizing d with
  | nil => exact (Bool.or_false _).symm
  | cons c changes ih =>
    rw [List.any_cons, ← Bool.or_assoc, ← WarmUp.locked_next, ← warmUp_after]
    exact ih (d.after c)

lemma spec_afterAll :
    (d.afterAll changes).warmUp.spec =
      if d.warmUp.locked then d.warmUp.spec
      else ((changes.takeWhile (!·.isLock)).filterMap Change.spec?).getLast?.or d.warmUp.spec := by
  induction changes generalizing d with
  | nil => exact (ite_self _).symm
  | cons c changes ih =>
    have hrun := ih (d.after c)
    rw [warmUp_after, WarmUp.locked_next, WarmUp.spec_next] at hrun
    refine hrun.trans ?_
    cases d.warmUp.locked with
    | true => rfl
    | false =>
      cases hlock : c.isLock with
      | true => simp [hlock, Change.spec?_eq_none hlock]
      | false =>
        rw [List.takeWhile_cons_of_pos (by simp [hlock]), List.filterMap_cons]
        cases c.spec? with
        | none => simp
        | some spec =>
          -- what is set later goes before
          simp only [List.getLast?_cons]
          cases (List.filterMap Change.spec? _).getLast? <;> simp

lemma warmingUp_afterAll :
    (d.afterAll changes).warmUp.warmingUp =
      (d.warmUp.warmingUp && !changes.any Change.isFinish) := by
  induction changes generalizing d with
  | nil => exact (Bool.and_true _).symm
  | cons c changes ih =>
    rw [List.any_cons, Bool.not_or, ← Bool.and_assoc, ← WarmUp.warmingUp_next, ← warmUp_after]
    exact ih (d.after c)

/-- Once the warm-up has ended, nobody is notified any more. -/
lemma observers_afterAll_of_finished (h : d.warmUp.warmingUp = false) :
    (d.afterAll changes).warmUp.observers =
      d.warmUp.observers ++ List.replicate (changes.countP Change.isObserve) 0 := by
  induction changes generalizing d with
  | nil => exact (List.append_nil _).symm
  | cons c changes ih =>
    have hafter : (d.after c).warmUp.warmingUp = false := by
      rw [warmUp_after, WarmUp.warmingUp_next, h, Bool.false_and]
    refine (ih (d.after c) hafter).trans ?_
    rw [warmUp_after, WarmUp.observers_next, h, List.countP_cons]
    cases c.isObserve with
    | true => simp [List.replicate_succ]
    | false => rfl

lemma observers_afterAll (h : d.warmUp.warmingUp = true) :
    (d.afterAll changes).warmUp.observers =
      (d.warmUp.observers ++ List.replicate (Change.early changes) 0).map
          (· + (changes.any Change.isFinish).toNat) ++
        List.replicate (Change.late changes) 0 := by
  induction changes generalizing d with
  | nil => simp [afterAll, Change.early, Change.late]
  | cons c changes ih =>
    have hwarming := d.warmUp.warmingUp_next c
    rw [← warmUp_after, h, Bool.true_and] at hwarming
    have hobservers := d.warmUp.observers_next c
    rw [← warmUp_after, h, Bool.true_and] at hobservers
    show ((d.after c).afterAll changes).warmUp.observers = _
    rw [Change.early_cons, Change.late_cons, List.any_cons]
    cases hfinish : c.isFinish with
    | true =>
      -- all that were registered have been notified, and whoever comes later is not
      rw [hfinish] at hwarming hobservers
      rw [observers_afterAll_of_finished _ changes hwarming, hobservers,
        Change.isObserve_eq_false hfinish]
      simp
    | false =>
      rw [hfinish] at hwarming hobservers
      rw [ih (d.after c) hwarming, hobservers]
      cases c.isObserve <;> simp [List.replicate_succ]

lemma notifications_take (c : Change) :
    (d.take (.change c)).notifications = (d.change? c).notifications :=
  congrArg (List.filterMap _) (List.append_nil _)

lemma notifications_transcript :
    (d.transcript (changes.map .change)).flatMap (·.outcome.notifications) =
      if d.warmUp.warmingUp && changes.any Change.isFinish then
        List.range (d.warmUp.observers.length + Change.early changes)
      else [] := by
  induction changes generalizing d with
  | nil => exact (if_neg (by simp)).symm
  | cons c changes ih =>
    have hwarming := d.warmUp.warmingUp_next c
    have hobservers := d.warmUp.observers_next c
    rw [← warmUp_after] at hwarming hobservers
    show (d.take (.change c)).notifications ++ _ = _
    rw [notifications_take, notifications_change?]
    show _ ++ ((d.after c).transcript (changes.map .change)).flatMap (·.outcome.notifications) = _
    rw [ih (d.after c), hwarming, hobservers, Change.early_cons, List.any_cons]
    cases d.warmUp.warmingUp with
    | false => simp
    | true =>
      cases hfinish : c.isFinish with
      | true => simp
      | false => cases c.isObserve <;> simp [Nat.add_assoc, Nat.add_comm]

/-- Setting the warm-up fails exactly where the setup has ended, and then leaves the desk as it
is. -/
lemma change?_setWarmUp (spec : WarmUpSpec) :
    ((∃ e, (d.change? (.setWarmUp spec)).value = .error e) ↔ d.warmUp.locked = true) ∧
      ∀ e, (d.change? (.setWarmUp spec)).value = .error e →
        e = .invalid .warmUpLocked ∧ d.after (.setWarmUp spec) = d := by
  simp only [after, change?, WarmUp.set]
  cases d.warmUp.locked with
  | true =>
    refine ⟨iff_of_true ⟨_, rfl⟩ rfl, fun e he => ?_⟩
    cases he
    exact ⟨rfl, rfl⟩
  | false =>
    refine ⟨iff_of_false ?_ Bool.false_ne_true, fun e he => ?_⟩
    · rintro ⟨e, he⟩
      cases he
    · cases he

/-- Whatever is done at a desk from the start, in any order: setting the warm-up fails exactly after
the end of the setup, as an invalid state, and then changes nothing; the specification is what was
set last before that; the setup does not begin again; the warm-up lasts until it is finished for the
first time; and then each observer that was registered before is notified once, in the order of
registration, and no other ever is. -/
theorem warmUp_afterAll (d : Desk) (changes : List Change) :
    let desk := d.blank.afterAll changes
    let run := d.blank.transcript (changes.map .change)
    let finished := changes.any Change.isFinish
    (∀ spec,
      ((∃ e, (desk.change? (.setWarmUp spec)).value = .error e) ↔ ∃ c ∈ changes, c.isLock = true) ∧
      ∀ e, (desk.change? (.setWarmUp spec)).value = .error e →
        (∃ reason, e = .invalid (.invalidState reason)) ∧ desk.after (.setWarmUp spec) = desk) ∧
    desk.warmUp.spec = ((changes.takeWhile (!·.isLock)).filterMap Change.spec?).getLast? ∧
    (desk.warmUp.locked = true → ∀ later, (desk.afterAll later).warmUp.locked = true) ∧
    (desk.warmUp.warmingUp = true ↔ ∀ c ∈ changes, c.isFinish = false) ∧
    run.flatMap (·.outcome.notifications) =
      (if finished then List.range (Change.early changes) else []) ∧
    desk.warmUp.observers =
      List.replicate (Change.early changes) finished.toNat ++
        List.replicate (Change.late changes) 0 := by
  intro desk run finished
  have hlocked : desk.warmUp.locked = changes.any Change.isLock := locked_afterAll d.blank changes
  have hwarming : desk.warmUp.warmingUp = !finished := warmingUp_afterAll d.blank changes
  refine ⟨fun spec => ?_, ?_, fun h later => ?_, ?_, ?_, ?_⟩
  · obtain ⟨hfails, hkeeps⟩ := change?_setWarmUp desk spec
    refine ⟨?_, fun e he => ?_⟩
    · rw [hfails, hlocked, List.any_eq_true]
    · obtain ⟨rfl, hafter⟩ := hkeeps e he
      exact ⟨⟨_, rfl⟩, hafter⟩
  · exact (spec_afterAll d.blank changes).trans (Option.or_none ..)
  · rw [locked_afterAll, h, Bool.true_or]
  · rw [hwarming, Bool.not_eq_true', List.any_eq_false]
    simp only [Bool.not_eq_true]
  · refine (notifications_transcript d.blank changes).trans ?_
    show (if finished then List.range (0 + Change.early changes) else []) = _
    rw [Nat.zero_add]
  · refine (observers_afterAll d.blank changes rfl).trans ?_
    show List.map _ (List.replicate _ 0) ++ _ = _
    rw [List.map_replicate, Nat.zero_add]

end Desk

end MarketHistory
