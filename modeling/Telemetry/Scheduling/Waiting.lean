import Telemetry.Clock

/-!
# Waiting for a deadline

Two ways to wait on a clock that moves a little with every reading. The real-time one is one wait
of the operating system, begun again when a signal interrupts it. The portable one sleeps until
100 microseconds before the deadline, and reads the clock until the deadline has passed.
-/

namespace Telemetry.Scheduling

/-- A clock that moves on by `tick` nanoseconds before each reading. -/
structure TickingClock where
  now : Nat
  tick : Nat
  deriving DecidableEq, Repr, Inhabited

namespace TickingClock

def read (c : TickingClock) : TickingClock := { c with now := c.now + c.tick }

/-- The clock after a sleep of exactly so long. -/
def sleepFor (c : TickingClock) (ns : Nat) : TickingClock := { c with now := c.now + ns }

def waitUntil (c : TickingClock) (deadline : Nat) : TickingClock :=
  { c with now := max c.now deadline }

end TickingClock

/-- The time before a deadline that is not slept. -/
def spinThreshold : Nat := 100000

/-- A wait that has ended: the clock at its last reading, and when each sleep ended. -/
structure Waited where
  clock : TickingClock
  wakeUps : List Nat
  deriving DecidableEq, Repr, Inhabited

/-- Sleeps and then reads the clock until a deadline. There is no end to that on a clock that its
readings do not move. -/
def sleepThenSpin (deadline : Nat) (clock : TickingClock) (wakeUps : List Nat) : Option Waited :=
  let reading := clock.read
  if deadline ≤ reading.now then some ⟨reading, wakeUps⟩
  else
    let remaining := deadline - reading.now
    if spinThreshold < remaining then
      let woken := reading.sleepFor (remaining - spinThreshold)
      sleepThenSpin deadline woken (woken.now :: wakeUps)
    else if clock.tick = 0 then none
    else sleepThenSpin deadline reading wakeUps
termination_by deadline - clock.now
decreasing_by
  · have hn : reading.now = clock.read.now := rfl
    have hr : clock.read.now = clock.now + clock.tick := rfl
    have hw : (clock.read.sleepFor (deadline - clock.read.now - spinThreshold)).now =
        clock.read.now + (deadline - clock.read.now - spinThreshold) := rfl
    have hs : spinThreshold = 100000 := rfl
    omega
  · have hn : reading.now = clock.read.now := rfl
    have hr : clock.read.now = clock.now + clock.tick := rfl
    omega

end Telemetry.Scheduling
