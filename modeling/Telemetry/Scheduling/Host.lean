import Telemetry.Scheduling.Config

/-!
# Hosts

A host locks memory and makes threads for a periodic task, and counts what it does. It may be told
to fail: locking memory, making a thread, and reserving time for a thread of the deadline class.
The real-time host checks what a thread is to be given, in order: its stack, its priority, its
processor. A thread of the deadline class reserves half of each period for itself.
-/

namespace Telemetry.Scheduling

inductive Backend where
  | posix
  | elevated
  /-- A host whose every outcome is laid down. -/
  | scripted
  deriving DecidableEq, Repr, Inhabited

def Backend.name : Backend → String
  | posix => "posix"
  | elevated => "elevated"
  | scripted => "scripted"

/-- What a process may do: its effective user, and its limit for real-time priorities. -/
structure Privileges where
  effectiveUser : Nat
  priorityLimit : Nat
  deriving DecidableEq, Repr, Inhabited

def Privileges.allowRealtime (p : Privileges) : Bool :=
  p.effectiveUser == 0 || decide (0 < p.priorityLimit)

def BackendChoice.resolve (c : BackendChoice) (p : Privileges) : Backend :=
  match c with
  | posix => .posix
  | elevated => .elevated
  | auto => if p.allowRealtime then .posix else .elevated

/-- Time reserved for a thread in each period, in nanoseconds. -/
structure Reservation where
  runtime : Nat
  deadline : Nat
  period : Nat
  deriving DecidableEq, Repr, Inhabited

/-- A host: who it is, what fails on it, and what it has done. -/
structure Host where
  backend : Backend
  lockFault : Option SystemError
  threadFault : Option SystemError
  reservationFault : Option SystemError
  locks : Nat
  unlocks : Nat
  reservation : Reservation
  deriving DecidableEq, Repr, Inhabited

namespace Host

/-- A host on which nothing fails and nothing was done. -/
def new (backend : Backend) : Host := ⟨backend, none, none, none, 0, 0, ⟨0, 0, 0⟩⟩

def lockMemory (h : Host) : Except SchedulerError Host :=
  match h.lockFault with
  | some e => .error (.memoryLock e)
  | none => .ok { h with locks := h.locks + 1 }

def unlockMemory (h : Host) : Host := { h with unlocks := h.unlocks + 1 }

/-- The smallest stack of a thread, in bytes. -/
def minStackSize : Nat := 16384

def refused (what : String) : SchedulerError :=
  .threadSetup s!"{what}: {SystemError.invalidArgument.message}"

def checkAttributes (c : RealtimeConfig) : Except SchedulerError Unit := do
  if c.stackSize < minStackSize then throw (refused "pthread_attr_setstacksize")
  if !c.priorityFits then throw (refused "pthread_attr_setschedparam")
  if let some cpu := c.cpuAffinity then
    if RealtimeConfig.maxCpus ≤ cpu.toNat then
      throw (.threadSetup s!"CPU {cpu.toNat} outside 0..{RealtimeConfig.maxCpus}")

def makeThread (h : Host) : Except SchedulerError Unit :=
  match h.threadFault with
  | some e => .error (.spawn e)
  | none => .ok ()

/-- Reserves time for a thread, if its class asks for it. -/
def reserve (h : Host) (c : RealtimeConfig) : Except SchedulerError Unit × Host :=
  if c.policy = .deadline then
    let h := { h with reservation := ⟨c.period / 2, c.period, c.period⟩ }
    match h.reservationFault with
    | some e => (.error (.threadSetup s!"sched_setattr: {e.message}"), h)
    | none => (.ok (), h)
  else (.ok (), h)

def spawn (h : Host) (c : RealtimeConfig) : Except SchedulerError Unit × Host :=
  match h.backend with
  | .posix =>
    match checkAttributes c, h.makeThread with
    | .error e, _ => (.error e, h)
    | .ok (), .error e => (.error e, h)
    | .ok (), .ok () => h.reserve c
  | .elevated | .scripted => (h.makeThread, h)

end Host

end Telemetry.Scheduling
