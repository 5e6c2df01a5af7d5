import MarketHistory.Instrument.Securities
import MarketHistory.Settings.Basic
import MarketHistory.Settings.Layered
import MarketHistory.Subscription.Catalog

/-!
# Finding the subscriptions for a request

The subscriptions of a symbol that serve a requested data type, the best first. A symbol without
one is served by subscriptions made up from the defaults of its kind and the universe.
-/

namespace MarketHistory

/-- What is known about instruments and their subscriptions. -/
structure Resolver where
  catalog    : Catalog
  book       : HoursBook
  securities : Securities
  defaults   : UniverseSettings

namespace Resolver

/-- The market hours of a symbol. -/
def marketHours (r : Resolver) (symbol : Symbol) : MarketHours :=
  r.securities.marketHours r.book symbol

/-- The resolution for a symbol: the explicit one, else the finest one that the user subscribed to
if the security is known, else that of the universe. -/
def effectiveResolution (r : Resolver) (symbol : Symbol) (explicit : Option Resolution) :
    Resolution :=
  let subscribed :=
    if r.securities.contains symbol then r.catalog.finestResolution? symbol else none
  Layered.resolve ⟨r.defaults.resolution, subscribed, explicit⟩

/-- Whether a request takes data of a type. Open interest has to be requested by its name. -/
def takes (requested t : DataType) : Bool :=
  requested.accepts t && !(requested = .base && t = .openInterest)

/-- Whether the subscription gives quotes of a share although hourly or daily data are explicitly
requested, which are trades only. -/
def isExcludedQuote (symbol : Symbol) (explicit : Option Resolution) (s : Subscription) : Bool :=
  symbol.securityType = .equity && (explicit = some .daily || explicit = some .hour) &&
    s.tickType = .quote

/-- Subscriptions are ordered by resolution, the finest first, then by the priority of their tick
types, internal feeds last. -/
def precedes (priorities : List TickType) (a b : Subscription) : Bool :=
  (compareLex (compareOn (·.resolution)) (compareLex (compareOn (·.tickType.rankIn priorities))
    (compareOn (·.isInternal))) a b).isLE

/-- The subscriptions in the catalog that serve a request, the best first. -/
def registered (r : Resolver) (symbol : Symbol) (requested : DataType)
    (explicit : Option Resolution) : List Subscription :=
  let priorities := r.catalog.tickTypesOf symbol.securityType
  let sorted := (r.catalog.subscriptionsOf symbol).mergeSort (precedes priorities)
  sorted.filter fun s => takes requested s.dataType && !isExcludedQuote symbol explicit s

/-- A subscription made up for a symbol. -/
def defaultSubscription (r : Resolver) (symbol : Symbol) (resolution : Resolution)
    (dataType : DataType) (tickType : TickType) : Subscription :=
  let entry := r.marketHours symbol
  { Subscription.of symbol resolution tickType entry.hours.timeZone with
    dataType
    dataTimeZone  := entry.dataTimeZone
    fillForward   := r.defaults.fillForward
    extendedHours := r.defaults.extendedHours
    normalization := r.defaults.normalization
    isInternal    := true }

/-- The subscriptions made up for a request, the best first. -/
def synthesized (r : Resolver) (symbol : Symbol) (requested : DataType)
    (explicit : Option Resolution) : List Subscription :=
  let resolution := r.effectiveResolution symbol explicit
  let kinds := r.catalog.defaultsOf symbol.securityType resolution symbol.canonical
  (kinds.filter fun k => takes requested k.1).map fun k =>
    r.defaultSubscription symbol resolution k.1 k.2

/-- The subscriptions that serve a request, the best first. -/
def resolve (r : Resolver) (symbol : Symbol) (requested : DataType)
    (explicit : Option Resolution) : Traced (List Subscription) :=
  match r.registered symbol requested explicit with
  | [] => do
    let made := r.synthesized symbol requested explicit
    Traced.notice (.defaultsSynthesized symbol requested
      (r.effectiveResolution symbol explicit) made.length)
    pure made
  | found => pure found

/-- The subscription that serves a request best, if there is one. -/
def resolveFirst? (r : Resolver) (symbol : Symbol) (requested : DataType)
    (explicit : Option Resolution) : Traced (Option Subscription) := do
  return (← r.resolve symbol requested explicit).head?

/-- The subscription that serves a request best; it is an error if there is none. -/
def resolveOne (r : Resolver) (symbol : Symbol) (requested : DataType)
    (explicit : Option Resolution) : Traced (Except InvalidRequest Subscription) := do
  match ← r.resolveFirst? symbol requested explicit with
  | some s => return .ok s
  | none   =>
    let actual := (← r.resolveFirst? symbol .base none).map (·.dataType)
    return .error (.typeMismatch symbol requested actual explicit)

end Resolver

end MarketHistory
