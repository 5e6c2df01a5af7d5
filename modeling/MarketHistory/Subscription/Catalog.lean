import MarketHistory.Order.SortedMap
import MarketHistory.Subscription.Basic
import MarketHistory.Subscription.TickTypes
import MarketHistory.Trace.Traced

/-!
# The catalog of subscriptions

The active subscriptions of each symbol, in the order in which they were added, and priorities of
tick types that differ from the usual ones.
-/

namespace MarketHistory

/-- The active subscriptions. -/
structure Catalog where
  subscriptions : SortedMap Symbol (List Subscription)
  /-- Priorities of tick types that replace the usual ones of a security type. -/
  tickTypes : SortedMap SecurityType (List TickType)

namespace Catalog

/-- The catalog without subscriptions. -/
def empty : Catalog := ⟨.empty, .empty⟩

/-- The catalog with other priorities of tick types for a security type. -/
def withTickTypes (c : Catalog) (securityType : SecurityType) (tickTypes : List TickType) :
    Catalog :=
  { c with tickTypes := c.tickTypes.insert securityType tickTypes }

/-- All subscriptions of a symbol, in the order in which they were added. -/
def subscriptionsOf (c : Catalog) (symbol : Symbol) : List Subscription :=
  (c.subscriptions.get? symbol).getD []

/-- The subscriptions of a symbol that are not internal. -/
def userSubscriptionsOf (c : Catalog) (symbol : Symbol) : List Subscription :=
  (c.subscriptionsOf symbol).filter (!·.isInternal)

/-- Adds a subscription, unless the very same one is there. -/
def add (c : Catalog) (s : Subscription) : Traced Catalog :=
  if s ∈ c.subscriptionsOf s.symbol then pure c
  else do
    Traced.notice (.subscriptionAdded s)
    pure { c with subscriptions := c.subscriptions.push s.symbol s }

/-- The catalog without the subscriptions of a symbol. -/
def remove (c : Catalog) (symbol : Symbol) : Catalog :=
  { c with subscriptions := c.subscriptions.erase symbol }

/-- Removes the subscriptions of a symbol, and tells how many there were. -/
def removeCounted (c : Catalog) (symbol : Symbol) : Nat × Catalog :=
  (((c.subscriptions.get? symbol).map List.length).getD 0, c.remove symbol)

/-- The finest resolution to which the user subscribed. -/
def finestResolution? (c : Catalog) (symbol : Symbol) : Option Resolution :=
  Resolution.finest? ((c.userSubscriptionsOf symbol).map (·.resolution))

/-- The tick types of a security type, the most important first. -/
def tickTypesOf (c : Catalog) (securityType : SecurityType) : List TickType :=
  (c.tickTypes.get? securityType).getD securityType.tickTypes

/-- The forms and tick types of data that exist for a symbol of this kind. -/
def defaultsOf (c : Catalog) (securityType : SecurityType) (resolution : Resolution)
    (canonical : Bool) : List (DataType × TickType) :=
  DataType.defaults (c.tickTypesOf securityType) securityType resolution canonical

end Catalog

end MarketHistory
