import MarketHistory.Hours.Book

/-!
# The known securities

The securities that a strategy works with, some with trading hours of their own, and the
placeholder symbols of universes, for which nothing is ever requested.
-/

namespace MarketHistory

/-- The known securities. -/
structure Securities where
  /-- The symbols in order, each with its own trading hours if it has any. -/
  registered : SortedMap Symbol (Option TradingHours)
  /-- The placeholder symbols of universes. -/
  universes  : SortedMap Symbol Unit

namespace Securities

/-- No securities. -/
def empty : Securities := ⟨.empty, .empty⟩

/-- Adds a security; one that is known keeps its hours. -/
def add (s : Securities) (symbol : Symbol) : Securities :=
  { s with registered := s.registered.insertNew symbol none }

/-- Adds a security with trading hours of its own. -/
def addWithHours (s : Securities) (symbol : Symbol) (hours : TradingHours) : Securities :=
  { s with registered := s.registered.insert symbol (some hours) }

/-- Removes a security. -/
def remove (s : Securities) (symbol : Symbol) : Securities :=
  { s with registered := s.registered.erase symbol }

/-- Whether a security is known. -/
def contains (s : Securities) (symbol : Symbol) : Bool := s.registered.contains symbol

/-- The symbols of the known securities, in order. -/
def symbols (s : Securities) : List Symbol := s.registered.keys

/-- The number of known securities. -/
def size (s : Securities) : Nat := s.registered.size

/-- Adds the placeholder symbol of a universe. -/
def addUniverse (s : Securities) (symbol : Symbol) : Securities :=
  { s with universes := s.universes.insert symbol () }

/-- Whether a symbol is the placeholder of a universe. -/
def isUniverse (s : Securities) (symbol : Symbol) : Bool := s.universes.contains symbol

/-- The security with a ticker, given in any case: the first one in order unless it is canonical, then
the next one that is not, and the first one after all if there is no such. -/
def find? (s : Securities) (ticker : String) : Option Symbol :=
  match s.symbols.filter (·.ticker == Text.upper ticker) with
  | []              => none
  | first :: others =>
    if first.canonical then (others.find? (!·.canonical)).or (some first) else some first

/-- The market hours of a symbol: its own trading hours come before those of the book, but its
data are kept in the book's zone. -/
def marketHours (s : Securities) (book : HoursBook) (symbol : Symbol) : MarketHours :=
  match s.registered.get? symbol with
  | some (some hours) => { book.entry symbol with hours }
  | _                 => book.entry symbol

end Securities

end MarketHistory
