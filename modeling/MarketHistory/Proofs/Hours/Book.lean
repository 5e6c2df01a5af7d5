import MarketHistory.Hours.Book
import Mathlib.Data.List.Induction
import Mathlib.Tactic.Lemma

/-!
# Books of market hours

A book is made of a default and of entries, each for a symbol or for a market and security type, that
are put into it one after the other. Of each kind the last entry counts, and one for the symbol comes
before one for its market (`HoursBook.entry_ofEntries`).
-/

namespace MarketHistory

/-- The last that `f` finds in a list. -/
def lastOf? {α β : Type} (f : α → Option β) (l : List α) : Option β := (l.filterMap f).getLast?

section

variable {α β : Type} (f : α → Option β)

@[simp]
lemma lastOf?_nil : lastOf? f [] = none := rfl

@[simp]
lemma lastOf?_concat (l : List α) (a : α) : lastOf? f (l ++ [a]) = (f a).or (lastOf? f l) := by
  cases hfound : f a <;> simp [lastOf?, hfound]

lemma exists_of_lastOf? {l : List α} {b : β} (h : lastOf? f l = some b) : ∃ a ∈ l, f a = some b := by
  apply List.mem_filterMap.mp
  exact List.mem_of_getLast? h

end

namespace HoursBook

/-- An entry of a book of market hours. -/
inductive Entry where
  | ofMarket (market : String) (securityType : SecurityType) (hours : MarketHours)
  | ofSymbol (symbol : Symbol) (hours : MarketHours)

/-- The market hours that an entry gives to a symbol by its name. -/
def Entry.forSymbol? (symbol : Symbol) : Entry → Option MarketHours
  | .ofSymbol named hours => if named = symbol then some hours else none
  | .ofMarket ..          => none

/-- The market hours that an entry gives to a symbol as one of its market and security type. The
entry may name the market in any case. -/
def Entry.forMarket? (symbol : Symbol) : Entry → Option MarketHours
  | .ofSymbol ..                        => none
  | .ofMarket market securityType hours =>
    if Text.lower market = symbol.market ∧ securityType = symbol.securityType then some hours
    else none

/-- The book with one more entry. -/
def enter (b : HoursBook) : Entry → HoursBook
  | .ofMarket market securityType hours => b.withMarket market securityType hours
  | .ofSymbol symbol hours              => b.withSymbol symbol hours

/-- The book of some entries that are put into it one after the other. -/
def ofEntries (default : MarketHours) (entries : List Entry) : HoursBook :=
  entries.foldl enter (.of default)

variable (b : HoursBook) (symbol : Symbol)

/-- An entry changes what is found for the symbol it names. -/
lemma get?_bySymbol_enter (e : Entry) :
    (b.enter e).bySymbol.get? symbol = (e.forSymbol? symbol).or (b.bySymbol.get? symbol) := by
  cases e with
  | ofMarket => rfl
  | ofSymbol named hours =>
    show (b.bySymbol.insert named hours).get? symbol = _
    rw [SortedMap.get?_insert]
    by_cases hnamed : named = symbol
    · simp [Entry.forSymbol?, hnamed]
    · simp [Entry.forSymbol?, hnamed, Ne.symm hnamed]

/-- An entry changes what is found for the market it names, whose name is kept in lower case. -/
lemma get?_byMarket_enter (e : Entry) :
    (b.enter e).byMarket.get? ⟨symbol.market, symbol.securityType⟩ =
      (e.forMarket? symbol).or (b.byMarket.get? ⟨symbol.market, symbol.securityType⟩) := by
  cases e with
  | ofSymbol => rfl
  | ofMarket market securityType hours =>
    show (b.byMarket.insert ⟨Text.lower market, securityType⟩ hours).get? _ = _
    rw [SortedMap.get?_insert]
    simp only [MarketSegment.mk.injEq, Entry.forMarket?, @eq_comm _ symbol.market,
      @eq_comm _ symbol.securityType]
    split <;> rfl

lemma default_enter (e : Entry) : (b.enter e).default = b.default := by
  cases e <;> rfl

variable (default : MarketHours) (entries : List Entry)

lemma ofEntries_concat (e : Entry) :
    ofEntries default (entries ++ [e]) = (ofEntries default entries).enter e := by
  simp [ofEntries]

lemma get?_bySymbol_ofEntries :
    (ofEntries default entries).bySymbol.get? symbol = lastOf? (·.forSymbol? symbol) entries := by
  induction entries using List.reverseRecOn with
  | nil => rfl
  | append_singleton entries e ih => simp [ofEntries_concat, get?_bySymbol_enter, ih]

lemma get?_byMarket_ofEntries :
    (ofEntries default entries).byMarket.get? ⟨symbol.market, symbol.securityType⟩ =
      lastOf? (·.forMarket? symbol) entries := by
  induction entries using List.reverseRecOn with
  | nil => rfl
  | append_singleton entries e ih => simp [ofEntries_concat, get?_byMarket_enter, ih]

lemma default_ofEntries : (ofEntries default entries).default = default := by
  induction entries using List.reverseRecOn with
  | nil => rfl
  | append_singleton entries e ih => simp [ofEntries_concat, default_enter, ih]

/-- A symbol has the market hours of the last entry that names it, else of the last entry for its
market and security type, else the default. -/
lemma entry_ofEntries :
    (ofEntries default entries).entry symbol =
      ((lastOf? (·.forSymbol? symbol) entries).or (lastOf? (·.forMarket? symbol) entries)).getD
        default := by
  simp [entry, get?_bySymbol_ofEntries, get?_byMarket_ofEntries, default_ofEntries]

end HoursBook

end MarketHistory
