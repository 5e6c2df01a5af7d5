import MarketHistory.Trace.Notice

/-!
# Traced results

A result together with what happened on the way to it: notices, questions to the exchange
calendar, requests submitted for delivery, batches delivered to the archive, and notifications of
observers.
-/

namespace MarketHistory

/-- The question since when a number of bars has passed. -/
structure BarCountQuery where
  symbol       : Symbol
  periods      : Nat
  resolution   : Resolution
  hours        : TradingHours
  dataTimeZone : TimeZone
  endTime      : Instant
deriving DecidableEq

/-- What happened on the way to a result. -/
inductive Event where
  | noticed (notice : Notice)
  | asked (query : BarCountQuery)
  /-- Requests were submitted for delivery, as they were planned. -/
  | submitted (requests : List Request)
  | delivered (batch : List Request)
  /-- The observer that was registered after `observer` others was notified. -/
  | notified (observer : Nat)
deriving DecidableEq

/-- A result and what happened on the way to it, in order. -/
structure Traced (α : Type) where
  value  : α
  events : List Event

namespace Traced

variable {α β : Type}

instance : Monad Traced where
  pure a   := ⟨a, []⟩
  bind x f := ⟨(f x.value).value, x.events ++ (f x.value).events⟩

@[simp]
theorem value_pure (a : α) : (pure a : Traced α).value = a := rfl

@[simp]
theorem events_pure (a : α) : (pure a : Traced α).events = [] := rfl

@[simp]
theorem value_bind (x : Traced α) (f : α → Traced β) : (x >>= f).value = (f x.value).value := rfl

@[simp]
theorem events_bind (x : Traced α) (f : α → Traced β) :
    (x >>= f).events = x.events ++ (f x.value).events := rfl

/-- Reports a notice. -/
def notice (n : Notice) : Traced Unit := ⟨(), [.noticed n]⟩

/-- Records a question to the calendar. -/
def ask (q : BarCountQuery) : Traced Unit := ⟨(), [.asked q]⟩

/-- Records requests submitted for delivery. -/
def submit (requests : List Request) : Traced Unit := ⟨(), [.submitted requests]⟩

/-- Records a batch delivered to the archive. -/
def deliver (batch : List Request) : Traced Unit := ⟨(), [.delivered batch]⟩

/-- Records the notification of the first `count` observers, in the order of registration. -/
def notifyAll (count : Nat) : Traced Unit := ⟨(), (List.range count).map .notified⟩

/-- The notices among the events. -/
def notices (x : Traced α) : List Notice :=
  x.events.filterMap fun
    | .noticed n => some n
    | _          => none

/-- The questions to the calendar among the events. -/
def queries (x : Traced α) : List BarCountQuery :=
  x.events.filterMap fun
    | .asked q => some q
    | _        => none

/-- The lists of requests submitted for delivery among the events. -/
def submissions (x : Traced α) : List (List Request) :=
  x.events.filterMap fun
    | .submitted requests => some requests
    | _                   => none

/-- The batches delivered to the archive among the events. -/
def batches (x : Traced α) : List (List Request) :=
  x.events.filterMap fun
    | .delivered batch => some batch
    | _                => none

/-! ### What the steps of a computation record -/

@[simp]
theorem submissions_pure (a : α) : (pure a : Traced α).submissions = [] := rfl

@[simp]
theorem batches_pure (a : α) : (pure a : Traced α).batches = [] := rfl

@[simp]
theorem submissions_bind (x : Traced α) (f : α → Traced β) :
    (x >>= f).submissions = x.submissions ++ (f x.value).submissions :=
  List.filterMap_append

@[simp]
theorem batches_bind (x : Traced α) (f : α → Traced β) :
    (x >>= f).batches = x.batches ++ (f x.value).batches :=
  List.filterMap_append

end Traced

end MarketHistory
