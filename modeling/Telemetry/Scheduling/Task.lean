import Telemetry.Scheduling.Cycle
import Telemetry.Scheduling.Host

/-!
# Periodic tasks

A task is idle until it is started, and running until it is stopped. Starting checks the
configuration, locks memory if that is asked for, raises the flag that the loop looks at, and makes
the thread; where one of these fails, what was done before it is undone, and the task is idle again.

The thread comes to its loop, and then looks at the flag before every call. A guard on its stack
lowers the flag however the loop is left, so also where a call panics and unwinds it. The task stays
in the running state then, with a thread whose loop is over, until it is stopped.
-/

namespace Telemetry.Scheduling

inductive TaskState where
  | idle
  | configuring
  | running
  | stopping
  deriving DecidableEq, Repr, Inhabited

def TaskState.name : TaskState → String
  | idle => "Idle"
  | configuring => "Configuring"
  | running => "Running"
  | stopping => "Stopping"

inductive Thread where
  /-- It has not come to its loop yet. -/
  | made
  /-- It is about to look whether the loop goes on. -/
  | looping (l : Loop)
  /-- Its loop was left. -/
  | left (l : Loop)
  deriving DecidableEq, Repr, Inhabited

def Thread.loop? : Thread → Option Loop
  | made => none
  | looping l | left l => some l

structure Task where
  config : RealtimeConfig
  state : TaskState
  /-- The flag that the loop looks at. -/
  looping : Bool
  thread : Option Thread
  locked : Bool
  statistics : Latency.Statistics
  deriving DecidableEq, Repr, Inhabited

namespace Task

def new (config : RealtimeConfig) : Task := ⟨config, .idle, false, none, false, .empty⟩

def isRunning (t : Task) : Bool := t.state == .running && t.looping

/-! ## Starting -/

def releaseMemory (t : Task) (h : Host) : Task × Host :=
  if t.locked then ({ t with locked := false }, h.unlockMemory) else (t, h)

/-- Checks, locks, raises the flag and makes the thread, which may begin at once. -/
def launch (t : Task) (h : Host) : Except SchedulerError Unit × Task × Host :=
  match t.config.validate with
  | .error e => (.error e, t, h)
  | .ok () =>
    match if t.config.lockMemory then (h.lockMemory).map fun h => ({ t with locked := true }, h)
        else .ok (t, h) with
    | .error e => (.error e, t, h)
    | .ok (t, h) =>
      let t := { t with looping := true }
      match h.spawn t.config with
      | (.ok (), h) => (.ok (), { t with thread := some .made }, h)
      | (.error e, h) => (.error e, { t with looping := false }, h)

def start (t : Task) (h : Host) : Except SchedulerError Unit × Task × Host :=
  if t.state ≠ .idle then (.error .alreadyRunning, t, h)
  else
    match launch { t with state := .configuring } h with
    | (.ok (), t, h) => (.ok (), { t with state := .running }, h)
    | (.error e, t, h) =>
      let (t, h) := t.releaseMemory h
      (.error e, { t with state := .idle }, h)

/-! ## The thread -/

def enter (t : Task) (now : Nat) : Task :=
  match t.thread with
  | some .made => { t with thread := some (.looping (.start t.config.pace now t.statistics)) }
  | _ => t

/-- The guard of the loop: the loop is left, by its end or by a panic, and the flag is lowered. -/
def leave (t : Task) (l : Loop) : Task := { t with looping := false, thread := some (.left l) }

/-- One turn of the loop: it is left if the flag is down, and else the next call is made. What the
call records goes to the statistics that the task shares with its thread. -/
def turn (t : Task) (call : Call) : Task :=
  match t.thread with
  | some (.looping l) =>
    if t.looping then
      match call with
      | .panics => t.leave l
      | .returns work late =>
        let l := Loop.cycle t.config.pace { l with statistics := t.statistics } work late
        { t with thread := some (.looping l), statistics := l.statistics }
    else t.leave l
  | _ => t

def work (t : Task) (calls : List Call) : Task := calls.foldl turn t

/-! ## Stopping -/

/-- Stops the task, if it is running: lowers the flag and waits for the thread to end. -/
def stop (t : Task) (h : Host) : Task × Host :=
  if t.state ≠ .running then (t, h)
  else
    let (t, h) := releaseMemory { t with state := .stopping, looping := false, thread := none } h
    ({ t with state := .idle }, h)

def drop (t : Task) (h : Host) : Host := (t.stop h).2

def resetStatistics (t : Task) : Task := { t with statistics := t.statistics.reset }

end Task

end Telemetry.Scheduling
