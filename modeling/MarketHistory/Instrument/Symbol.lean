import MarketHistory.Instrument.SecurityType

/-!
# Symbols

A symbol names an instrument. A canonical symbol stands for a chain of contracts and has no data
of its own.
-/

namespace MarketHistory

/-- The name of an instrument. -/
structure Symbol where
  ticker       : String
  securityType : SecurityType
  market       : String
  /-- Whether the symbol stands for a chain of contracts. -/
  canonical    : Bool
deriving DecidableEq

namespace Symbol

/-! ### Order -/

/-- Symbols are ordered by ticker, character by character, then by security type, market and
canonical last. -/
instance : Ord Symbol :=
  ⟨compareLex (compareOn ticker) (compareLex (compareOn securityType)
    (compareLex (compareOn market) (compareOn canonical)))⟩

instance : Std.TransOrd Symbol :=
  inferInstanceAs (Std.TransCmp (compareLex (compareOn ticker)
    (compareLex (compareOn securityType) (compareLex (compareOn market) (compareOn canonical)))))

instance : Std.LawfulEqOrd Symbol where
  eq_of_compare {a b} h := by
    obtain ⟨ht, h⟩ := compareLex_compareOn_eq_iff.1 h
    obtain ⟨hs, h⟩ := compareLex_compareOn_eq_iff.1 h
    obtain ⟨hm, h⟩ := compareLex_compareOn_eq_iff.1 h
    have hc := compareOn_eq_iff.1 h
    cases a; cases b; simp_all

/-- The symbols in order. -/
def sort (symbols : List Symbol) : List Symbol :=
  symbols.mergeSort fun a b => (compare a b).isLE

/-! ### Making symbols -/

/-- The symbol of an instrument, with the ticker in upper and the market in lower case. -/
def of (ticker : String) (securityType : SecurityType) (market : String) : Symbol :=
  ⟨Text.upper ticker, securityType, Text.lower market, false⟩

/-- The symbol of a share in the United States. -/
def equity (ticker : String) : Symbol := of ticker .equity "usa"

/-- The symbol of a currency pair. -/
def forex (pair : String) : Symbol := of pair .forex "oanda"

/-- The symbol of a pair with a cryptocurrency. -/
def crypto (pair market : String) : Symbol := of pair .crypto market

/-- The symbol of an index in the United States. -/
def index (ticker : String) : Symbol := of ticker .index "usa"

/-- The symbol of a single futures contract. -/
def future (ticker market : String) : Symbol := of ticker .future market

/-- The symbol for the chain of contracts of this name. -/
def asCanonical (s : Symbol) : Symbol := { s with canonical := true }

/-- The symbol for a chain of futures contracts. -/
def continuousFuture (ticker market : String) : Symbol := (future ticker market).asCanonical

/-- The symbol in messages: the ticker, after a slash if canonical. -/
def text (s : Symbol) : String := if s.canonical then "/" ++ s.ticker else s.ticker

end Symbol

end MarketHistory
