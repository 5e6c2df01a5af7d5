import MarketHistory.Data.Observation

/-!
# Slices

The observations that arrive at one time, in the order of their arrival.
-/

namespace MarketHistory

/-- The observations that arrive at one time. -/
structure Slice where
  time : Instant
  data : List Observation
deriving DecidableEq

namespace Slice

/-- The slice with one more observation at the end. -/
def push (s : Slice) (o : Observation) : Slice := { s with data := s.data ++ [o] }

/-- Whether nothing arrived. -/
def isEmpty (s : Slice) : Bool := s.data.isEmpty

/-- The last observation of an instrument that a request for a data type takes. -/
def get? (s : Slice) (symbol : Symbol) (requested : DataType) : Option Observation :=
  s.data.reverse.find? fun o => o.symbol = symbol && requested.accepts o.dataType

/-- The observations that a request for a data type takes. -/
def ofType (s : Slice) (requested : DataType) : List Observation :=
  s.data.filter fun o => requested.accepts o.dataType

end Slice

/-- The observations of an instrument in some slices that a request for a data type takes. -/
def Slice.project (slices : List Slice) (symbol : Symbol) (requested : DataType) :
    List Observation :=
  (slices.flatMap Slice.data).filter fun o =>
    o.symbol = symbol && requested.accepts o.dataType

/-- The slices with only what a request for a data type takes, without those left empty. -/
def Slice.restrict (slices : List Slice) (requested : DataType) : List Slice :=
  slices.filterMap fun s =>
    let data := s.ofType requested
    if data.isEmpty then none else some ⟨s.time, data⟩

end MarketHistory
