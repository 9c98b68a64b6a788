/-!
# Rates

A tracker remembers the counts of the last report and when it was made, and turns new counts into
rates per second. Where no time has passed the rates are zero, and a count that went back, as it
does when statistics are reset, gives the rate zero and starts anew from there.
-/

namespace Telemetry

structure Rates where
  cycles : Float
  samples : Float
  frames : Float
  deriving Repr, Inhabited

def Rates.zero : Rates := ⟨0, 0, 0⟩

structure Counted where
  cycles : Nat
  samples : Nat
  frames : Nat
  deriving DecidableEq, Repr, Inhabited

/-- The counts of the last report, and its time in nanoseconds. -/
structure RateTracker where
  last : Counted
  time : Nat
  deriving DecidableEq, Repr, Inhabited

namespace RateTracker

def new (now : Nat) : RateTracker := ⟨⟨0, 0, 0⟩, now⟩

def toFloat (n : Nat) : Float := n.toUInt64.toFloat

/-- Nanoseconds in seconds: the whole seconds, and the rest of them as a quotient. -/
def seconds (ns : Nat) : Float := toFloat (ns / 1000000000) + toFloat (ns % 1000000000) / 1000000000

/-- The rate at which a count rose within seconds. -/
def rate (elapsed : Float) (now before : Nat) : Float :=
  if 0 < elapsed then toFloat (now - before) / elapsed else 0

/-- The rates since the last report, and the tracker after this one. -/
def update (t : RateTracker) (now : Nat) (counts : Counted) : Rates × RateTracker :=
  let elapsed := seconds (now - t.time)
  (⟨rate elapsed counts.cycles t.last.cycles, rate elapsed counts.samples t.last.samples,
    rate elapsed counts.frames t.last.frames⟩, ⟨counts, now⟩)

end RateTracker

end Telemetry
