import MarketHistory.Proofs.Desk.Foresight
import MarketHistory.Proofs.Desk.Reached
import MarketHistory.Proofs.Planning.Calls

/-!
# The order of a setup

A setup makes securities and universes known, subscribes and loads past data. Each of its changes
touches one entry of one part of the desk, so that its order does not matter, except where changes
touch the same entry and do not simply agree: subscriptions to one symbol, trading hours of one
symbol, and observations of one series that are complete at one time (`Reordered`). The desk is the
same in any other order (`afterAll_eq_of_reordered`), and so is all that it answers.
-/

namespace MarketHistory

/-! ### The changes of a setup -/

namespace Change

/-- The subscription that a change adds, if it does. -/
def subscription? : Change → Option Subscription
  | subscribe s => some s
  | _           => none

/-- The security that a change makes known without trading hours of its own, if it does. -/
def security? : Change → Option Symbol
  | addSecurity symbol => some symbol
  | _                  => none

/-- The trading hours that a change gives to a security, if it does. -/
def hours? : Change → Option (Symbol × TradingHours)
  | addSecurityWithHours symbol hours => some (symbol, hours)
  | _                                 => none

/-- The placeholder of a universe that a change makes known, if it does. -/
def universe? : Change → Option Symbol
  | addUniverse symbol => some symbol
  | _                  => none

/-- Whether a change belongs to a setup. -/
def isSetup : Change → Bool
  | addSecurity _ | addSecurityWithHours _ _ | addUniverse _ | subscribe _ | load _ _ => true
  | _                                                                                => false

end Change

/-- Two setups are the same but for the order, which is kept between subscriptions to one symbol,
between trading hours of one symbol, and between observations of one symbol and resolution that are
complete at one time. -/
structure Reordered (changes changes' : List Change) : Prop where
  perm : changes.Perm changes'
  subscriptions (symbol : Symbol) :
    (changes.filterMap Change.subscription?).filter (·.symbol = symbol) =
      (changes'.filterMap Change.subscription?).filter (·.symbol = symbol)
  hours (symbol : Symbol) :
    (changes.filterMap Change.hours?).filter (·.1 = symbol) =
      (changes'.filterMap Change.hours?).filter (·.1 = symbol)
  observations (symbol : Symbol) (resolution : Resolution) (time : Instant) :
    (Load.log (changes.filterMap Change.load?)).filter
        (fun e => e.2.symbol = symbol ∧ e.1 = resolution ∧ e.2.endTime = time) =
      (Load.log (changes'.filterMap Change.load?)).filter
        (fun e => e.2.symbol = symbol ∧ e.1 = resolution ∧ e.2.endTime = time)

/-! ### Subscriptions -/

namespace Catalog

/-- The catalog after a change of the setup. -/
def next (c : Catalog) : Change → Catalog
  | .subscribe s => (c.add s).value
  | _            => c

/-- Adds a subscription to those of its symbol, unless the very same one is there. -/
def including (subscriptions : Option (List Subscription)) (s : Subscription) :
    Option (List Subscription) :=
  if s ∈ subscriptions.getD [] then subscriptions else some (subscriptions.getD [] ++ [s])

variable (c : Catalog) (changes : List Change)

/-- A subscription is added to those of its symbol and of no other. -/
lemma get?_add (s : Subscription) (symbol : Symbol) :
    (c.add s).value.subscriptions.get? symbol =
      if s.symbol = symbol then including (c.subscriptions.get? symbol) s
      else c.subscriptions.get? symbol := by
  simp only [add]
  split
  next hmem =>
    split
    next hsymbol =>
      subst hsymbol
      exact (if_pos hmem).symm
    next => rfl
  next hmem =>
    show (c.subscriptions.push s.symbol s).get? symbol = _
    rw [SortedMap.get?_push]
    split
    next hsymbol =>
      subst hsymbol
      rw [if_pos rfl]
      exact (if_neg hmem).symm
    next hsymbol => rw [if_neg (Ne.symm hsymbol)]

/-- The subscriptions of a symbol are added one by one. -/
lemma get?_foldl_next (symbol : Symbol) :
    (changes.foldl next c).subscriptions.get? symbol =
      ((changes.filterMap Change.subscription?).filter (·.symbol = symbol)).foldl including
        (c.subscriptions.get? symbol) := by
  induction changes generalizing c with
  | nil => rfl
  | cons change changes ih =>
    rw [List.foldl_cons, ih]
    cases change with
    | subscribe s =>
      rw [next, get?_add, List.filterMap_cons, Change.subscription?, List.filter_cons]
      by_cases hsymbol : s.symbol = symbol <;> simp [hsymbol]
    | _ => rfl

lemma tickTypes_foldl_next : (changes.foldl next c).tickTypes = c.tickTypes := by
  induction changes generalizing c with
  | nil => rfl
  | cons change changes ih =>
    rw [List.foldl_cons, ih]
    cases change with
    | subscribe s =>
      simp only [next, add]
      split <;> rfl
    | _ => rfl

/-- Catalogs are the same in any order that keeps the one between subscriptions to one symbol. -/
lemma foldl_next_congr {changes changes' : List Change} (h : Reordered changes changes') :
    changes.foldl next c = changes'.foldl next c := by
  have hsubscriptions : (changes.foldl next c).subscriptions =
      (changes'.foldl next c).subscriptions := by
    refine SortedMap.ext_get? fun symbol => ?_
    rw [get?_foldl_next, get?_foldl_next, h.subscriptions]
  have htickTypes : (changes.foldl next c).tickTypes = (changes'.foldl next c).tickTypes := by
    rw [tickTypes_foldl_next, tickTypes_foldl_next]
  exact congrArg₂ Catalog.mk hsubscriptions htickTypes

end Catalog

/-! ### Securities -/

namespace Securities

/-- The securities after a change of the setup. -/
def next (s : Securities) : Change → Securities
  | .addSecurity symbol                => s.add symbol
  | .addSecurityWithHours symbol hours => s.addWithHours symbol hours
  | .addUniverse symbol                => s.addUniverse symbol
  | _                                  => s

variable (s : Securities) (changes : List Change)

/-- The last trading hours of a symbol count; making it known without any changes nothing if it is
known. -/
lemma get?_registered_foldl_next (symbol : Symbol) :
    (changes.foldl next s).registered.get? symbol =
      (((changes.filterMap Change.hours?).filter (·.1 = symbol)).getLast?.map fun e => some e.2).or
        (if symbol ∈ changes.filterMap Change.security? then
          some ((s.registered.get? symbol).getD none)
        else s.registered.get? symbol) := by
  induction changes generalizing s with
  | nil => rfl
  | cons change changes ih =>
    rw [List.foldl_cons, ih]
    cases change with
    | addSecurity known =>
      have hnext : (s.next (.addSecurity known)).registered.get? symbol =
          if symbol = known then some ((s.registered.get? known).getD none)
          else s.registered.get? symbol := SortedMap.get?_insertNew ..
      rw [hnext]
      by_cases hsymbol : symbol = known
      · subst hsymbol
        simp [List.filterMap_cons, Change.security?, Change.hours?]
      · simp [List.filterMap_cons, Change.security?, Change.hours?, hsymbol]
    | addSecurityWithHours known hours =>
      have hnext : (s.next (.addSecurityWithHours known hours)).registered.get? symbol =
          if symbol = known then some (some hours) else s.registered.get? symbol :=
        SortedMap.get?_insert ..
      rw [hnext]
      by_cases hsymbol : symbol = known
      · subst hsymbol
        simp only [List.filterMap_cons, Change.security?, Change.hours?, List.filter_cons,
          decide_true, if_true, List.getLast?_cons]
        -- hours that are given later replace these
        cases (List.filter _ (List.filterMap Change.hours? changes)).getLast? <;> simp
      · simp [List.filterMap_cons, Change.security?, Change.hours?, hsymbol, Ne.symm hsymbol]
    | _ => rfl

/-- A placeholder is known if it was or was made known. -/
lemma get?_universes_foldl_next (symbol : Symbol) :
    (changes.foldl next s).universes.get? symbol =
      if symbol ∈ changes.filterMap Change.universe? then some () else s.universes.get? symbol := by
  induction changes generalizing s with
  | nil => rfl
  | cons change changes ih =>
    rw [List.foldl_cons, ih]
    cases change with
    | addUniverse known =>
      have hnext : (s.next (.addUniverse known)).universes.get? symbol =
          if symbol = known then some () else s.universes.get? symbol := SortedMap.get?_insert ..
      rw [hnext]
      by_cases hsymbol : symbol = known <;>
        simp [Change.universe?, hsymbol]
    | _ => rfl

/-- Securities are the same in any order that keeps the one between trading hours of one symbol. -/
lemma foldl_next_congr {changes changes' : List Change} (h : Reordered changes changes') :
    changes.foldl next s = changes'.foldl next s := by
  have hregistered : (changes.foldl next s).registered = (changes'.foldl next s).registered := by
    refine SortedMap.ext_get? fun symbol => ?_
    rw [get?_registered_foldl_next, get?_registered_foldl_next, h.hours]
    simp only [(h.perm.filterMap Change.security?).mem_iff]
  have huniverses : (changes.foldl next s).universes = (changes'.foldl next s).universes := by
    refine SortedMap.ext_get? fun symbol => ?_
    rw [get?_universes_foldl_next, get?_universes_foldl_next]
    simp only [(h.perm.filterMap Change.universe?).mem_iff]
  exact congrArg₂ Securities.mk hregistered huniverses

end Securities

/-! ### Past data -/

/-- What is complete at one time in a series, as a part of the log. -/
lemma SeriesKey.filter_endTime_select (key : SeriesKey) (log : List (Resolution × Observation))
    (time : Instant) :
    (key.select log).filter (·.endTime = time) =
      (log.filter fun e =>
        e.2.symbol = key.symbol ∧ e.1 = key.resolution ∧ e.2.endTime = time).map (·.2) := by
  rw [select, List.filter_map, List.filter_filter]
  refine congrArg (List.map _) (List.filter_congr fun e _ => ?_)
  obtain ⟨symbol, resolution⟩ := key
  simp [Bool.and_comm, Bool.and_left_comm, Bool.and_assoc]

/-- There is nothing where there is nothing at any time. -/
lemma Observation.eq_nil_iff {os : List Observation} :
    os = [] ↔ ∀ time, os.filter (·.endTime = time) = [] := by
  constructor
  · rintro rfl time
    rfl
  · intro h
    refine List.eq_nil_iff_forall_not_mem.mpr fun o ho => ?_
    have hmem : o ∈ os.filter (·.endTime = o.endTime) :=
      List.mem_filter.mpr ⟨ho, decide_eq_true rfl⟩
    rw [h] at hmem
    cases hmem

namespace Timeline

/-- What is recorded at a time stands there; where nothing is, nothing changes. -/
lemma get?_record (t : Timeline) (os : List Observation) (time : Instant) :
    (t.record os).get? time =
      if os.filter (·.endTime = time) = [] then t.get? time
      else some (t.completedAt time ++ os.filter (·.endTime = time)) := by
  induction os generalizing t with
  | nil => rfl
  | cons o os ih =>
    rw [record, List.foldl_cons, ← record, ih, completedAt_push, SortedMap.get?_push]
    by_cases htime : o.endTime = time
    · subst htime
      simp only [List.filter_cons, decide_true, if_true, List.filter_nil]
      cases List.filter (fun o' => decide (o'.endTime = o.endTime)) os <;>
        simp [completedAt]
    · simp [htime, Ne.symm htime]

/-- Recording does not depend on the order of observations of different times. -/
lemma record_congr (t : Timeline) {os os' : List Observation}
    (h : ∀ time, os.filter (·.endTime = time) = os'.filter (·.endTime = time)) :
    t.record os = t.record os' := by
  refine SortedMap.ext_get? fun time => ?_
  rw [get?_record, get?_record, h]

end Timeline

namespace Archive

/-- The archive after a change of the setup. -/
def next (a : Archive) : Change → Archive
  | .load resolution observations => (a.load resolution observations).value
  | _                             => a

variable (a : Archive) (changes : List Change)

lemma foldl_next : changes.foldl next a = a.loadAll (changes.filterMap Change.load?) := by
  induction changes generalizing a with
  | nil => rfl
  | cons change changes ih =>
    rw [List.foldl_cons, ih]
    cases change <;> rfl

/-- A series holds what it held and what is stored of it; without either, there is none. -/
lemma get?_foldl_store (log : List (Resolution × Observation)) (key : SeriesKey) :
    (log.foldl (fun a e => a.store e.1 e.2) a).series.get? key =
      if key.select log = [] then a.series.get? key
      else some ((a.seriesOf key).record (key.select log)) := by
  induction log generalizing a with
  | nil => rfl
  | cons e log ih =>
    have hstore : (a.store e.1 e.2).series.get? key =
        if key = ⟨e.2.symbol, e.1⟩ then some ((a.seriesOf key).push e.2.endTime e.2)
        else a.series.get? key := by
      simp only [store, SortedMap.get?_alter, Std.LawfulEqOrd.compare_eq_iff_eq]
      split
      next hkey =>
        subst hkey
        rfl
      next => rfl
    rw [List.foldl_cons, ih, seriesOf_store, hstore, key.select_cons e log]
    by_cases hkey : key = ⟨e.2.symbol, e.1⟩
    · have hself : key.select [e] = [e.2] := by simp [SeriesKey.select, hkey]
      rw [hself, if_pos hkey]
      cases key.select log <;> simp [Timeline.record]
    · have hother : key.select [e] = [] := by simp [SeriesKey.select, Ne.symm hkey]
      rw [hother, if_neg hkey]
      rfl

lemma failure_foldl_store (log : List (Resolution × Observation)) :
    (log.foldl (fun a e => a.store e.1 e.2) a).failure = a.failure := by
  induction log generalizing a with
  | nil => rfl
  | cons e log ih => exact ih (a.store e.1 e.2)

/-- Archives are the same in any order that keeps the one between observations of one series and
time. -/
lemma foldl_next_congr {changes changes' : List Change} (h : Reordered changes changes') :
    changes.foldl next a = changes'.foldl next a := by
  let log := Load.log (changes.filterMap Change.load?)
  let log' := Load.log (changes'.filterMap Change.load?)
  have hselect : ∀ (key : SeriesKey) (time : Instant),
      (key.select log).filter (·.endTime = time) = (key.select log').filter (·.endTime = time) := by
    intro key time
    rw [key.filter_endTime_select, key.filter_endTime_select, h.observations]
  -- a series comes about in both archives or in neither
  have hnil : ∀ key : SeriesKey, key.select log = [] ↔ key.select log' = [] := by
    intro key
    rw [Observation.eq_nil_iff, Observation.eq_nil_iff]
    simp only [hselect key]
  have hseries : (log.foldl (fun a e => a.store e.1 e.2) a).series =
      (log'.foldl (fun a e => a.store e.1 e.2) a).series := by
    refine SortedMap.ext_get? fun key => ?_
    rw [get?_foldl_store, get?_foldl_store, (a.seriesOf key).record_congr (hselect key)]
    simp only [hnil key]
  have hclocks : (log.foldl (fun a e => a.store e.1 e.2) a).clocks =
      (log'.foldl (fun a e => a.store e.1 e.2) a).clocks :=
    (a.clocks_foldl_store log).trans (a.clocks_foldl_store log').symm
  rw [foldl_next, foldl_next, loadAll_eq_foldl_store, loadAll_eq_foldl_store]
  exact Archive.ext hclocks hseries
    ((a.failure_foldl_store log).trans (a.failure_foldl_store log').symm)

end Archive

namespace Desk

variable (d : Desk)

/-- A change of a setup acts on its own part of the desk. -/
lemma after_of_isSetup {c : Change} (h : c.isSetup = true) :
    d.after c = { d with
      catalog    := d.catalog.next c
      archive    := d.archive.next c
      securities := d.securities.next c } := by
  cases c <;> first | rfl | cases h

lemma afterAll_of_isSetup {changes : List Change} (h : ∀ c ∈ changes, c.isSetup = true) :
    d.afterAll changes = { d with
      catalog    := changes.foldl Catalog.next d.catalog
      archive    := changes.foldl Archive.next d.archive
      securities := changes.foldl Securities.next d.securities } := by
  induction changes generalizing d with
  | nil => rfl
  | cons c changes ih =>
    show (d.after c).afterAll changes = _
    rw [ih _ fun c' hc' => h c' (List.mem_cons_of_mem c hc'),
      after_of_isSetup d (h c List.mem_cons_self)]
    rfl

/-- The desk is the same in any other order of the setup. -/
lemma afterAll_eq_of_reordered {changes changes' : List Change}
    (hsetup : ∀ c ∈ changes, c.isSetup = true) (h : Reordered changes changes') :
    d.afterAll changes = d.afterAll changes' := by
  have hsetup' : ∀ c ∈ changes', c.isSetup = true := fun c hc => hsetup c (h.perm.mem_iff.mpr hc)
  rw [afterAll_of_isSetup d hsetup, afterAll_of_isSetup d hsetup', d.catalog.foldl_next_congr h,
    d.archive.foldl_next_congr h, d.securities.foldl_next_congr h]

/-- Whatever the desk before a setup, the order of the setup does not matter: in any other order
that keeps the one between subscriptions to one symbol, between trading hours of one symbol, and
between observations of one series and time, the same securities are known and found by their
tickers, the warm-up requests the same, and every question has the same answer, for which the
archive receives the same batches. -/
theorem answer_reordered {changes changes' : List Change}
    (hsetup : ∀ c ∈ changes, c.isSetup = true) (h : Reordered changes changes') :
    let desk := d.afterAll changes
    let desk' := d.afterAll changes'
    desk.knownSymbols = desk'.knownSymbols ∧
      (∀ ticker, desk.symbolFor ticker = desk'.symbolFor ticker) ∧
      desk.warmUpRequests.run = desk'.warmUpRequests.run ∧
      ∀ q, (desk.answer q).run.value = (desk'.answer q).run.value ∧
        (desk.answer q).run.batches = (desk'.answer q).run.batches := by
  intro desk desk'
  have hdesk : desk = desk' := d.afterAll_eq_of_reordered hsetup h
  rw [hdesk]
  exact ⟨rfl, fun _ => rfl, rfl, fun _ => ⟨rfl, rfl⟩⟩

/-- Known first with trading hours of its own or first without, the security has them, and the query
for it returns the same bar. -/
theorem answer_reordered_of_reverse :
    let changes : List Change := [
      .addSecurityWithHours Planner.spy (.alwaysOpen .newYork),
      .subscribe (.of Planner.spy .minute .trade .utc),
      .load .minute [barOfLastDay 0],
      .addUniverse ⟨"SPX", .index, "usa", true⟩,
      .addSecurity Planner.spy]
    let desk := lastMidnight.afterAll changes
    let desk' := lastMidnight.afterAll changes.reverse
    let question : Question := .ofType Planner.spy .tradeBar (.range .first desk.now) none
    (∀ c ∈ changes, c.isSetup = true) ∧ Reordered changes changes.reverse ∧
      (desk.answer question).run.value = .ok (.observations [barOfLastDay 0]) ∧
      (desk'.answer question).run.value = .ok (.observations [barOfLastDay 0]) := by
  intro changes desk desk' question
  have hsetup : ∀ c ∈ changes, c.isSetup = true := by simp [changes, Change.isSetup]
  have hreordered : Reordered changes changes.reverse :=
    ⟨(List.reverse_perm changes).symm, fun _ => rfl, fun _ => rfl, fun _ _ _ => rfl⟩
  have hanswer : (desk.answer question).run.value = .ok (.observations [barOfLastDay 0]) := by
    decide +kernel
  obtain ⟨_, _, _, hquestions⟩ := answer_reordered lastMidnight hsetup hreordered
  exact ⟨hsetup, hreordered, hanswer, (hquestions question).1.symm.trans hanswer⟩

end Desk

end MarketHistory
