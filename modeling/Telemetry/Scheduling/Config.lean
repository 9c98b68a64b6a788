import Telemetry.Scheduling.Error

/-!
# Real-time configuration

How the thread of a periodic task is to be scheduled, and how often it wakes. A configuration is
checked in a fixed order, and the first rule it breaks is reported.
-/

namespace Telemetry.Scheduling

inductive Policy where
  /-- A fixed priority, until the thread waits. -/
  | fifo
  | roundRobin
  | deadline
  deriving DecidableEq, Repr, Inhabited

namespace Policy

def configName : Policy → String
  | fifo => "fifo"
  | roundRobin => "round_robin"
  | deadline => "deadline"

def name : Policy → String
  | fifo => "Fifo"
  | roundRobin => "RoundRobin"
  | deadline => "Deadline"

def hasPriority : Policy → Bool
  | fifo | roundRobin => true
  | deadline => false

def maxPriority (p : Policy) : Nat := if p.hasPriority then 99 else 0

end Policy

inductive BackendChoice where
  /-- The real-time one if the process may use it. -/
  | auto
  | posix
  | elevated
  deriving DecidableEq, Repr, Inhabited

def BackendChoice.configName : BackendChoice → String
  | auto => "auto"
  | posix => "posix"
  | elevated => "elevated"

structure RealtimeConfig where
  policy : Policy
  priority : Int32
  cpuAffinity : Option UInt64
  lockMemory : Bool
  /-- The size of the thread's stack, in units of 1024 bytes. -/
  stackSizeKb : UInt64
  periodMicros : UInt64
  /-- A deviation above this is a missed deadline. -/
  maxDeviationMicros : UInt64
  backend : BackendChoice
  deriving DecidableEq, Repr, Inhabited

namespace RealtimeConfig

def standard : RealtimeConfig where
  policy := .fifo
  priority := 99
  cpuAffinity := none
  lockMemory := true
  stackSizeKb := 8192
  periodMicros := 100
  maxDeviationMicros := 1000
  backend := .auto

/-- The longest period, one hour. -/
def maxPeriodMicros : Nat := 3600000000

def maxCpus : Nat := 1024

/-- A product that stays at the largest 64-bit number where it would exceed it. -/
def scaled (n : UInt64) (factor : Nat) : Nat := min (n.toNat * factor) (UInt64.size - 1)

def period (c : RealtimeConfig) : Nat := scaled c.periodMicros 1000

def maxDeviation (c : RealtimeConfig) : Nat := scaled c.maxDeviationMicros 1000

def stackSize (c : RealtimeConfig) : Nat := scaled c.stackSizeKb 1024

/-- Whether the priority is one that the scheduling class knows. -/
def priorityFits (c : RealtimeConfig) : Bool :=
  !c.policy.hasPriority || (decide (1 ≤ c.priority.toInt) && decide (c.priority.toInt ≤ 99))

def validate (c : RealtimeConfig) : Except SchedulerError Unit :=
  if c.periodMicros = 0 then .error (.invalidConfig "period must be positive")
  else if maxPeriodMicros < c.periodMicros.toNat then
    .error (.invalidConfig s!"period {c.periodMicros.toNat}µs exceeds {maxPeriodMicros}µs")
  else if c.stackSizeKb = 0 then .error (.invalidConfig "stack size must be positive")
  else if !c.priorityFits then
    .error (.invalidConfig s!"priority {c.priority.toInt} outside 1..=99")
  else
    match c.cpuAffinity with
    | some cpu =>
      if maxCpus ≤ cpu.toNat then
        .error (.invalidConfig s!"cpu_affinity {cpu.toNat} outside 0..{maxCpus}")
      else .ok ()
    | none => .ok ()

end RealtimeConfig

end Telemetry.Scheduling
