import Telemetry.Clock
import Telemetry.Latency.Statistics
import Telemetry.Scheduling.Config

/-!
# The periodic loop

A cycle calls back, measures how far past the deadline that ended, moves the deadline on by a period
and sleeps until then. The first call comes at once, a period ahead of its deadline. Deadlines are
only ever moved by whole periods, so neither a long call nor a late wake-up shifts the later ones.
-/

namespace Telemetry.Scheduling

/-- The period of a loop and the largest deviation that is no miss, in nanoseconds. -/
structure Pace where
  period : Nat
  maxDeviation : Nat
  deriving DecidableEq, Repr, Inhabited

def RealtimeConfig.pace (c : RealtimeConfig) : Pace := ⟨c.period, c.maxDeviation⟩

/-- A running loop: the time, the deadline of the next call, and the deviations so far. -/
structure Loop where
  now : Nat
  deadline : Nat
  statistics : Latency.Statistics
  deriving DecidableEq, Repr, Inhabited

namespace Loop

/-- A period later, but no later than a 64-bit clock can say. -/
def later (pace : Pace) (t : Nat) : Nat := min (t + pace.period) (UInt64.size - 1)

def start (pace : Pace) (now : Nat) (statistics : Latency.Statistics) : Loop :=
  ⟨now, later pace now, statistics⟩

def elapse (l : Loop) (ns : Nat) : Loop := { l with now := l.now + ns }

/-- The signed distance of the time from the deadline. -/
def deviation (l : Loop) : Int64 := Int64.ofNat l.now - Int64.ofNat l.deadline

def measure (pace : Pace) (l : Loop) : Loop :=
  let statistics := l.statistics.record l.deviation
  { l with statistics :=
      if Int64.ofNat pace.maxDeviation < l.deviation then statistics.recordMiss else statistics }

/-- Moves the deadline on and sleeps until then, waking up `late` nanoseconds late. -/
def sleep (pace : Pace) (l : Loop) (late : Nat) : Loop :=
  let deadline := later pace l.deadline
  { l with now := max l.now deadline + late, deadline }

/-- One cycle with a call that takes `work` nanoseconds. -/
def cycle (pace : Pace) (l : Loop) (work late : Nat) : Loop :=
  ((l.elapse work).measure pace).sleep pace late

def run (pace : Pace) (l : Loop) (cycles : List (Nat × Nat)) : Loop :=
  cycles.foldl (fun l (work, late) => l.cycle pace work late) l

end Loop

/-- What a call comes to. -/
inductive Call where
  /-- It takes some nanoseconds, and the wake-up after it comes so late. -/
  | returns (work late : Nat)
  | panics
  deriving DecidableEq, Repr, Inhabited

end Telemetry.Scheduling
