import MarketHistory.Trace.Traced

/-!
# Warm-up

How much past data a strategy receives before it starts to trade. The warm-up is set up first,
then locked; when it is finished, the observers registered so far are notified once.
-/

namespace MarketHistory

/-- The state of the warm-up. -/
structure WarmUp where
  spec      : Option WarmUpSpec
  locked    : Bool
  warmingUp : Bool
  /-- How often each observer has been notified, in the order of registration. -/
  observers : List Nat
deriving DecidableEq

namespace WarmUp

/-- The state at the start. -/
def initial : WarmUp := ⟨none, false, true, []⟩

/-- Sets how much data the strategy receives; once locked, nothing can be set. -/
def set (w : WarmUp) (spec : WarmUpSpec) : Traced (Except QueryError WarmUp) :=
  if w.locked then pure (.error .warmUpLocked)
  else do
    Traced.notice (.warmUpConfigured spec)
    pure (.ok { w with spec := some spec })

/-- Ends the setup. -/
def lock (w : WarmUp) : Traced WarmUp :=
  if w.locked then pure w
  else do
    Traced.notice .warmUpLocked
    pure { w with locked := true }

/-- Registers one more observer. -/
def observe (w : WarmUp) : WarmUp := { w with observers := w.observers ++ [0] }

/-- Ends the warm-up and, the first time, notifies the observers. -/
def finish (w : WarmUp) : Traced WarmUp :=
  if w.warmingUp then do
    Traced.notice (.warmUpFinished w.observers.length)
    Traced.notifyAll w.observers.length
    pure { w with warmingUp := false, observers := w.observers.map (· + 1) }
  else pure w

end WarmUp

end MarketHistory
