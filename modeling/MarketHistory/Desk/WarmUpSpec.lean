import MarketHistory.Data.Resolution
import MarketHistory.Time.Span

/-!
# Warm-up specifications

How much past data a warm-up takes: a number of bars of each instrument, or a span of time.
-/

namespace MarketHistory

/-- How much past data a warm-up takes. -/
inductive WarmUpSpec where
  | bars (count : Nat) (resolution : Option Resolution)
  | span (length : Span) (resolution : Option Resolution)
deriving DecidableEq

namespace WarmUpSpec

/-- The resolution at which data are taken, if it was given. -/
def resolution : WarmUpSpec → Option Resolution
  | bars _ resolution => resolution
  | span _ resolution => resolution

/-- The specification in messages. -/
def text (s : WarmUpSpec) : String :=
  let amount := match s with
    | bars count _  => toString count ++ " bars"
    | span length _ => toString length.seconds ++ "s"
  amount ++ (match s.resolution with
    | some r => " @ " ++ r.name
    | none   => "")

end WarmUpSpec

end MarketHistory
