/-!
# Layered settings

A setting may come from the call, from the subscription or from the defaults of the universe; the
more specific source wins.
-/

namespace MarketHistory

/-- Where a setting comes from. -/
inductive SettingSource where
  | call | subscription | defaults
deriving DecidableEq

namespace SettingSource

/-- The sources, the one that wins first. -/
def precedence : List SettingSource := [call, subscription, defaults]

/-- The name of a source. -/
def name : SettingSource → String
  | call         => "call"
  | subscription => "subscription"
  | defaults     => "universe"

end SettingSource

/-- The candidates for a setting. There always is a default. -/
structure Layered (α : Type) where
  fallback     : α
  subscription : Option α := none
  call         : Option α := none

namespace Layered

variable {α : Type}

/-- The candidate of a source. -/
def layer (l : Layered α) : SettingSource → Option α
  | .call         => l.call
  | .subscription => l.subscription
  | .defaults     => some l.fallback

/-- The value of a setting and where it comes from. -/
def resolveWithSource (l : Layered α) : α × SettingSource :=
  let candidate (source : SettingSource) := (l.layer source).map fun value => (value, source)
  (SettingSource.precedence.findSome? candidate).getD (l.fallback, .defaults)

/-- The value of a setting. -/
def resolve (l : Layered α) : α := l.resolveWithSource.1

end Layered

end MarketHistory
