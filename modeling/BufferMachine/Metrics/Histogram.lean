import BufferMachine.Number.Double

/-!
# Histograms

A histogram counts observations in buckets.  An observation belongs to the first bucket whose upper
bound it does not exceed; one that exceeds all bounds is only part of the total.  A report shows the
buckets cumulatively: for every bound, how many observations do not exceed it.
-/

namespace BufferMachine

/-- The observations so far: for each bound how many belong to its bucket, how many there are in
all, and their sum in double precision. -/
structure Histogram where
  bounds : List Nat
  tallies : List Nat
  count : Nat := 0
  sum : Int := 0
deriving DecidableEq, Repr

namespace Histogram

def empty (bounds : List Nat) : Histogram := { bounds, tallies := bounds.map fun _ => 0 }

/-- Counts an observation in the bucket that it belongs to. -/
def tally (n : Int) : List Nat → List Nat → List Nat
  | bound :: bounds, t :: ts => if n ≤ bound then (t + 1) :: ts else t :: tally n bounds ts
  | _, ts => ts

def observe (h : Histogram) (n : Int) : Histogram :=
  { h with
    tallies := tally n h.bounds h.tallies
    count := h.count + 1
    sum := Double.add h.sum (Double.round n) }

def runningTotals (total : Nat) : List Nat → List Nat
  | [] => []
  | t :: ts => (total + t) :: runningTotals (total + t) ts

/-- For every bound, how many observations do not exceed it. -/
def cumulative (h : Histogram) : List (Nat × Nat) := h.bounds.zip (runningTotals 0 h.tallies)

end Histogram

end BufferMachine
