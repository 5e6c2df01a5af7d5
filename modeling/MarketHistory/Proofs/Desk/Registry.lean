import MarketHistory.Proofs.Desk.Reached
import MarketHistory.Proofs.Hours.Book
import Mathlib.Data.List.DropRight

/-!
# The known securities along a run

Securities are added, with trading hours of their own or without, and removed in any order. Those are
known that were added since they were last removed (`Registered`), and of the trading hours that were
given to one since then the last count (`ownHours`). Adding a security again without hours keeps
those it has. Where a security has none of its own, the book of market hours tells them
(`Securities.marketHours_of_log`).
-/

namespace MarketHistory

/-! ### The log of a security -/

namespace Change

/-- Whether a change removes a security. -/
def removes (symbol : Symbol) : Change → Bool
  | removeSecurity removed => removed = symbol
  | _                      => false

/-- Whether a change adds a security, with trading hours of its own or without. -/
def registers (symbol : Symbol) : Change → Bool
  | addSecurity added            => added = symbol
  | addSecurityWithHours added _ => added = symbol
  | _                            => false

/-- The trading hours that a change gives to a security. -/
def hoursFor? (symbol : Symbol) : Change → Option TradingHours
  | addSecurityWithHours added hours => if added = symbol then some hours else none
  | _                                => none

lemma registers_of_hoursFor? {symbol : Symbol} {c : Change} {hours : TradingHours}
    (h : c.hoursFor? symbol = some hours) : c.registers symbol = true := by
  cases c with
  | addSecurityWithHours added given =>
    by_cases hadded : added = symbol
    · simp [registers, hadded]
    · simp [hoursFor?, hadded] at h
  | _ => cases h

/-- A change that adds a security adds no other and removes none. -/
lemma eq_of_registers {added : Symbol} {c : Change} (h : c.registers added = true)
    (symbol : Symbol) :
    c.removes symbol = false ∧ (c.registers symbol = true ↔ symbol = added) := by
  cases c with
  | addSecurity named =>
    have hnamed : named = added := by simpa [registers] using h
    simp [removes, registers, hnamed, eq_comm]
  | addSecurityWithHours named hours =>
    have hnamed : named = added := by simpa [registers] using h
    simp [removes, registers, hnamed, eq_comm]
  | _ => cases h

end Change

/-- The changes since a security was last removed. -/
def sinceRemoved (changes : List Change) (symbol : Symbol) : List Change :=
  changes.rtakeWhile (!·.removes symbol)

/-- A security was added since it was last removed. -/
def Registered (changes : List Change) (symbol : Symbol) : Prop :=
  ∃ c ∈ sinceRemoved changes symbol, c.registers symbol = true

instance (changes : List Change) (symbol : Symbol) : Decidable (Registered changes symbol) :=
  inferInstanceAs (Decidable (∃ c ∈ sinceRemoved changes symbol, c.registers symbol = true))

/-- The trading hours that were last given to a security since it was last removed. -/
def ownHours (changes : List Change) (symbol : Symbol) : Option TradingHours :=
  lastOf? (·.hoursFor? symbol) (sinceRemoved changes symbol)

section

variable (changes : List Change) (c : Change) (symbol : Symbol)

lemma sinceRemoved_concat : sinceRemoved (changes ++ [c]) symbol =
    if c.removes symbol then [] else sinceRemoved changes symbol ++ [c] := by
  cases hremoves : c.removes symbol <;> simp [sinceRemoved, hremoves]

lemma registered_concat : Registered (changes ++ [c]) symbol ↔
    c.removes symbol = false ∧ (Registered changes symbol ∨ c.registers symbol = true) := by
  rw [Registered, sinceRemoved_concat]
  cases hremoves : c.removes symbol
  · simp [Registered, or_and_right, exists_or]
  · simp

lemma registered_concat_iff {added : Symbol} (h : c.registers added = true) :
    Registered (changes ++ [c]) symbol ↔ Registered changes symbol ∨ symbol = added := by
  obtain ⟨hremoves, hregisters⟩ := Change.eq_of_registers h symbol
  rw [registered_concat, hregisters]
  simp [hremoves]

lemma ownHours_concat : ownHours (changes ++ [c]) symbol =
    if c.removes symbol then none else (c.hoursFor? symbol).or (ownHours changes symbol) := by
  rw [ownHours, sinceRemoved_concat]
  split
  · rfl
  · rw [lastOf?_concat, ownHours]

/-- Only a security that is known has trading hours of its own. -/
lemma ownHours_eq_none (h : ¬Registered changes symbol) : ownHours changes symbol = none := by
  rw [Option.eq_none_iff_forall_ne_some]
  intro hours hown
  obtain ⟨c, hc, hgiven⟩ := exists_of_lastOf? _ hown
  exact h ⟨c, hc, Change.registers_of_hoursFor? hgiven⟩

end

namespace Securities

/-- The securities after a change. -/
def after (s : Securities) : Change → Securities
  | .addSecurity symbol                => s.add symbol
  | .addSecurityWithHours symbol hours => s.addWithHours symbol hours
  | .removeSecurity symbol             => s.remove symbol
  | .addUniverse symbol                => s.addUniverse symbol
  | _                                  => s

/-- The securities after some changes, if at first none is known. -/
def afterAll (changes : List Change) : Securities := changes.foldl after empty

variable (s : Securities) (changes : List Change) (c : Change) (symbol : Symbol)

/-- A security that is removed is not known any more; one that is added has the hours that come with
it, or else keeps its own. -/
lemma get?_registered_after : (s.after c).registered.get? symbol =
    if c.removes symbol then none
    else if c.registers symbol then
      some ((c.hoursFor? symbol).or ((s.registered.get? symbol).getD none))
    else s.registered.get? symbol := by
  cases c with
  | addSecurity added =>
    show (s.registered.insertNew added none).get? symbol = _
    rw [SortedMap.get?_insertNew]
    by_cases hadded : added = symbol
    · simp [Change.removes, Change.registers, Change.hoursFor?, hadded]
    · simp [Change.removes, Change.registers, hadded, Ne.symm hadded]
  | addSecurityWithHours added hours =>
    show (s.registered.insert added (some hours)).get? symbol = _
    rw [SortedMap.get?_insert]
    by_cases hadded : added = symbol
    · simp [Change.removes, Change.registers, Change.hoursFor?, hadded]
    · simp [Change.removes, Change.registers, hadded, Ne.symm hadded]
  | removeSecurity removed =>
    show (s.registered.erase removed).get? symbol = _
    rw [SortedMap.get?_erase]
    by_cases hremoved : removed = symbol
    · simp [Change.removes, hremoved]
    · simp [Change.removes, Change.registers, hremoved, Ne.symm hremoved]
  | _ => rfl

lemma afterAll_concat : afterAll (changes ++ [c]) = (afterAll changes).after c := by
  simp [afterAll]

/-- The known securities and their hours are those of the log. -/
lemma get?_registered_afterAll : (afterAll changes).registered.get? symbol =
    if Registered changes symbol then some (ownHours changes symbol) else none := by
  induction changes using List.reverseRecOn with
  | nil => simp [afterAll, empty, Registered, sinceRemoved]
  | append_singleton changes c ih =>
    rw [afterAll_concat, get?_registered_after, ih, ownHours_concat]
    simp only [registered_concat]
    cases hremoves : c.removes symbol
    · cases hregisters : c.registers symbol
      · have hnone : c.hoursFor? symbol = none := by
          rw [Option.eq_none_iff_forall_ne_some]
          intro hours hgiven
          simp [Change.registers_of_hoursFor? hgiven] at hregisters
        simp [hnone]
      · by_cases hknown : Registered changes symbol
        · simp [hknown]
        · simp [hknown, ownHours_eq_none changes symbol hknown]
    · simp

lemma mem_symbols_afterAll : symbol ∈ (afterAll changes).symbols ↔ Registered changes symbol := by
  rw [symbols, SortedMap.mem_keys_iff, SortedMap.contains, get?_registered_afterAll]
  by_cases hknown : Registered changes symbol <;> simp [hknown]

/-- A security has its own trading hours or else those of the book, and always the book's time zone
of data. -/
lemma marketHours_afterAll (book : HoursBook) : (afterAll changes).marketHours book symbol =
    ⟨(book.entry symbol).dataTimeZone,
      (ownHours changes symbol).getD (book.entry symbol).hours⟩ := by
  rw [marketHours, get?_registered_afterAll]
  by_cases hknown : Registered changes symbol
  · cases hown : ownHours changes symbol <;> simp [hknown]
  · simp [hknown, ownHours_eq_none changes symbol hknown]

/-- Whatever was added and removed in whatever order, the known symbols are listed in strictly
ascending order, and they are those that were added since they were last removed. A symbol has the
trading hours that were last given to it since it was last removed; else those of the last entry of
the book that names it, else of the last entry for its market and security type, else the default. Its
data are in the time zone that the book tells. -/
theorem marketHours_of_log (default : MarketHours) (entries : List HoursBook.Entry)
    (changes : List Change) :
    let securities := afterAll changes
    let book := HoursBook.ofEntries default entries
    securities.symbols.Pairwise (fun a b => compare a b = .lt) ∧
      (∀ symbol, symbol ∈ securities.symbols ↔ Registered changes symbol) ∧
      ∀ symbol,
        book.entry symbol = ((lastOf? (·.forSymbol? symbol) entries).or
          (lastOf? (·.forMarket? symbol) entries)).getD default ∧
        (securities.marketHours book symbol).hours =
          (ownHours changes symbol).getD (book.entry symbol).hours ∧
        (securities.marketHours book symbol).dataTimeZone = (book.entry symbol).dataTimeZone := by
  intro securities book
  refine ⟨securities.registered.pairwise_keys, ?_, ?_⟩
  · intro symbol
    exact mem_symbols_afterAll changes symbol
  · intro symbol
    have hhours := marketHours_afterAll changes symbol book
    refine ⟨HoursBook.entry_ofEntries symbol default entries, ?_, ?_⟩
    · rw [hhours]
    · rw [hhours]

end Securities

namespace Desk

variable (d : Desk)

lemma securities_after (c : Change) : (d.after c).securities = d.securities.after c := by
  cases c with
  | advanceClock span =>
    simp only [after, change?]
    cases d.now.add? span <;> rfl
  | setWarmUp spec =>
    simp only [after, change?, WarmUp.set]
    cases d.warmUp.locked <;> rfl
  | _ => rfl

/-- A desk knows the securities that its changes make known. -/
lemma securities_afterAll (changes : List Change) :
    (d.blank.afterAll changes).securities = .afterAll changes := by
  induction changes using List.reverseRecOn with
  | nil => rfl
  | append_singleton changes c ih =>
    rw [afterAll_concat, securities_after, ih, Securities.afterAll_concat]

end Desk

end MarketHistory
