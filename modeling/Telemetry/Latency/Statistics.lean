import Telemetry.Latency.Histogram

/-!
# Latency statistics

Each cycle of a periodic task ends some time before or after its deadline. The statistics count
these deviations and keep their least, their greatest and their sum, which wraps at 64 bits, and
apart from them the deadlines that were missed. A summary of no deviations is all zeros, misses
apart. The percentiles of a summary lie between its least and its greatest deviation.
-/

namespace Telemetry.Latency

structure Statistics where
  count : Nat
  sum : Int64
  least : Int64
  greatest : Int64
  misses : Nat
  histogram : Histogram
  deriving DecidableEq, Repr, Inhabited

/-- Figures for a report, in nanoseconds. -/
structure Summary where
  count : Nat
  min : Int64
  max : Int64
  /-- The mean, truncated toward zero. -/
  avg : Int64
  p50 : Int64
  p95 : Int64
  p99 : Int64
  misses : Nat
  deriving DecidableEq, Repr, Inhabited

namespace Statistics

def empty : Statistics := ⟨0, 0, Int64.maxValue, Int64.minValue, 0, .empty⟩

def record (s : Statistics) (deviation : Int64) : Statistics :=
  { s with
    count := s.count + 1
    sum := s.sum + deviation
    least := min s.least deviation
    greatest := max s.greatest deviation
    histogram := s.histogram.record deviation }

def recordMiss (s : Statistics) : Statistics := { s with misses := s.misses + 1 }

/-- Forgets everything, field by field. -/
def reset (s : Statistics) : Statistics :=
  { s with
    count := 0
    sum := 0
    least := Int64.maxValue
    greatest := Int64.minValue
    misses := 0
    histogram := s.histogram.clear }

/-- A percentile, no less than the least deviation and no more than the greatest. -/
def percentile (s : Statistics) (percent : Nat) : Int64 :=
  min (max (Int64.ofNat (s.histogram.percentile percent)) s.least) s.greatest

def summary (s : Statistics) : Summary :=
  if s.count = 0 then { (default : Summary) with misses := s.misses }
  else {
    count := s.count
    min := s.least
    max := s.greatest
    avg := s.sum / Int64.ofNat s.count
    p50 := s.percentile 50
    p95 := s.percentile 95
    p99 := s.percentile 99
    misses := s.misses }

end Statistics

def micros (ns : Int64) : Float := ns.toFloat / 1000.0

def Summary.micros (s : Summary) : List Float :=
  [s.min, s.max, s.avg, s.p50, s.p95, s.p99].map Latency.micros

end Telemetry.Latency
