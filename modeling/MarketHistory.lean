import MarketHistory.Archive.Basic
import MarketHistory.Data.Kind
import MarketHistory.Data.Observation
import MarketHistory.Data.Resolution
import MarketHistory.Data.Slice
import MarketHistory.Desk.Basic
import MarketHistory.Desk.Change
import MarketHistory.Desk.LastPrice
import MarketHistory.Desk.Query
import MarketHistory.Desk.WarmUp
import MarketHistory.Desk.WarmUpSpec
import MarketHistory.Hours.Book
import MarketHistory.Hours.TradingHours
import MarketHistory.Instrument.Securities
import MarketHistory.Instrument.SecurityType
import MarketHistory.Instrument.Symbol
import MarketHistory.Json.Basic
import MarketHistory.Json.Fields
import MarketHistory.Json.History
import MarketHistory.Json.Kept
import MarketHistory.Json.Market
import MarketHistory.Json.Parser
import MarketHistory.Json.Printer
import MarketHistory.Json.Settings
import MarketHistory.Json.Token
import MarketHistory.Log.Format
import MarketHistory.Number.Binary64
import MarketHistory.Number.Decimal
import MarketHistory.Number.Midpoint
import MarketHistory.Number.Rounding
import MarketHistory.Number.Scaled
import MarketHistory.Order.Lexicographic
import MarketHistory.Order.SortedMap
import MarketHistory.Parsing
import MarketHistory.Record.Fields
import MarketHistory.Request.Basic
import MarketHistory.Request.Calendar
import MarketHistory.Request.Clipping
import MarketHistory.Request.Error
import MarketHistory.Request.Plan
import MarketHistory.Settings.Basic
import MarketHistory.Settings.Environment
import MarketHistory.Settings.Layered
import MarketHistory.Settings.Load
import MarketHistory.Settings.Path
import MarketHistory.Settings.Raw
import MarketHistory.Settings.Reading
import MarketHistory.Settings.Tree
import MarketHistory.Subscription.Basic
import MarketHistory.Subscription.Catalog
import MarketHistory.Subscription.Resolver
import MarketHistory.Subscription.TickTypes
import MarketHistory.Text.Blank
import MarketHistory.Text.CaseContext
import MarketHistory.Text.CaseMapping
import MarketHistory.Text.Digits
import MarketHistory.Text.LetterCase
import MarketHistory.Text.Scan
import MarketHistory.Time.Date
import MarketHistory.Time.Instant
import MarketHistory.Time.Notation
import MarketHistory.Time.Span
import MarketHistory.Time.TimeOfDay
import MarketHistory.Time.Zone
import MarketHistory.Time.Zone.Exchanges
import MarketHistory.Time.Zone.Names
import MarketHistory.Toml.Basic
import MarketHistory.Toml.Document
import MarketHistory.Toml.Moment
import MarketHistory.Toml.Scalar
import MarketHistory.Trace.Notice
import MarketHistory.Trace.Traced
import MarketHistory.Proofs.Archive.Timeline
import MarketHistory.Proofs.Archive.Log
import MarketHistory.Proofs.Desk.Dispatch
import MarketHistory.Proofs.Desk.Foresight
import MarketHistory.Proofs.Desk.Serves
import MarketHistory.Proofs.Desk.Answers
import MarketHistory.Proofs.Desk.Transcript
import MarketHistory.Proofs.Planning.BarWindow
import MarketHistory.Proofs.Planning.Coherence
import MarketHistory.Proofs.Archive.Selection
import MarketHistory.Proofs.Desk.Clamping
import MarketHistory.Proofs.Desk.Calls
import MarketHistory.Proofs.Desk.Reached
import MarketHistory.Proofs.Desk.Canonical
import MarketHistory.Proofs.Archive.Counting
import MarketHistory.Proofs.Archive.Slices
import MarketHistory.Proofs.Desk.Multiplicity
import MarketHistory.Proofs.Desk.Outcome
import MarketHistory.Proofs.Desk.Ranges
import MarketHistory.Proofs.Desk.Separation
import MarketHistory.Proofs.Desk.OneSymbol
import MarketHistory.Proofs.Desk.Latest
import MarketHistory.Proofs.Desk.Lookback
import MarketHistory.Proofs.Desk.LastPrices
import MarketHistory.Proofs.Desk.SecondLook
import MarketHistory.Proofs.Desk.WarmUp
import MarketHistory.Proofs.Desk.Setup
import MarketHistory.Proofs.Desk.Refusals
import MarketHistory.Proofs.Subscription.Serving
import MarketHistory.Proofs.Desk.Subscribed
import MarketHistory.Proofs.Desk.Layers
import MarketHistory.Proofs.Desk.Coverage
import MarketHistory.Proofs.Subscription.Narrowing
import MarketHistory.Proofs.Planning.EffectiveBars
import MarketHistory.Proofs.Desk.ShareQuotes
import MarketHistory.Proofs.Planning.BarStart
import MarketHistory.Proofs.Planning.FirstOfType
import MarketHistory.Proofs.Desk.TradeBars
import MarketHistory.Proofs.Request.Batches
import MarketHistory.Proofs.Time.Order
import MarketHistory.Proofs.Hours.Overnight
import MarketHistory.Proofs.Desk.Enumeration
import MarketHistory.Proofs.Desk.TwoPaths
import MarketHistory.Proofs.Hours.AlwaysOpen
import MarketHistory.Proofs.Subscription.Finest
import MarketHistory.Proofs.Desk.CatalogLog
import MarketHistory.Proofs.Hours.Book
import MarketHistory.Proofs.Desk.Registry
import MarketHistory.Proofs.Desk.Tickers
import MarketHistory.Proofs.Number.Midpoint
import MarketHistory.Proofs.Settings.Sources
import MarketHistory.Proofs.Json.RoundTrip
