import Telemetry.Scheduling.Task

/-!
# The life of a periodic task

Between two calls a task is at rest or at work (`Task.AtRest`, `Task.AtWork`), and what it says of
its thread, its flag and its lock on memory goes with that: at work the flag is up exactly as long
as the loop was not left. A start may fail at the configuration, at the lock or at the thread. The
flag goes up before the thread is made, and the lock is taken before that, so each of these failures
has something else to undo; `Task.start_of_atRest` says that the task is as it was after any of
them.

The loop is followed turn by turn. A turn at work leaves a task at work (`Task.turn_atWork`), one
that returns counts and goes on (`Task.work_returns`), and one that panics unwinds the loop past the
guard, after which no later call is made (`Task.work_panics`). From one act to the next, by
induction on the acts, the locks that were taken and not given back are those of the task
(`Life.Kept`), whatever fails on the host and wherever a callback panics. `life_cycle_is_kept` reads
all of it off the last state.

## How the proof goes

What a start does is computed once for each way it can end (`Task.start_invalid`,
`Task.start_unlockable`, `Task.start_lockable`), by taking the task at rest apart. Everything after
that goes by `AtRest` and `AtWork` and does not look into `start` again.

A thread stands at one of three places: it was made, it is in its loop, or it has left the loop. A
turn of the loop is split by the place (`Task.turn_cases`), and all that is said of many turns
follows by induction on the calls from what that one lemma says. The locks are no matter of the
loop, since a turn changes the thread, the flag and the statistics only (`Task.turn_eq`); they are
counted over starts and stops (`Host.lockedFor`, `Host.releasedFor`), whose hosts may fail in other
ways each time.
-/

namespace Telemetry.Scheduling

/-! ## Hosts -/

/-- What fails on a host. -/
structure Faults where
  lock : Option SystemError
  thread : Option SystemError
  reservation : Option SystemError
  deriving DecidableEq, Repr, Inhabited

namespace Host

/-- The host on which this fails from now on. -/
def suffer (h : Host) (f : Faults) : Host :=
  { h with lockFault := f.lock, threadFault := f.thread, reservationFault := f.reservation }

/-- The host once memory is locked, if that is asked for. -/
def lockedFor (h : Host) (c : RealtimeConfig) : Host :=
  if c.lockMemory then { h with locks := h.locks + 1 } else h

theorem lockedFor_locks (h : Host) (c : RealtimeConfig) :
    (h.lockedFor c).locks = h.locks + if c.lockMemory then 1 else 0 := by
  unfold lockedFor
  split <;> rfl

theorem lockedFor_unlocks (h : Host) (c : RealtimeConfig) :
    (h.lockedFor c).unlocks = h.unlocks := by
  unfold lockedFor
  split <;> rfl

/-- The host once memory is unlocked again, if it was locked. -/
def releasedFor (h : Host) (c : RealtimeConfig) : Host :=
  if c.lockMemory then h.unlockMemory else h

theorem releasedFor_locks (h : Host) (c : RealtimeConfig) :
    (h.releasedFor c).locks = h.locks := by
  unfold releasedFor
  split <;> rfl

theorem releasedFor_unlocks (h : Host) (c : RealtimeConfig) :
    (h.releasedFor c).unlocks = h.unlocks + if c.lockMemory then 1 else 0 := by
  unfold releasedFor
  split <;> rfl

theorem reserve_counts (h : Host) (c : RealtimeConfig) :
    (h.reserve c).2.locks = h.locks ∧ (h.reserve c).2.unlocks = h.unlocks := by
  unfold reserve
  split
  · dsimp only
    split <;> exact ⟨rfl, rfl⟩
  · exact ⟨rfl, rfl⟩

/-- Making a thread locks and unlocks nothing. -/
theorem spawn_counts (h : Host) (c : RealtimeConfig) :
    (h.spawn c).2.locks = h.locks ∧ (h.spawn c).2.unlocks = h.unlocks := by
  unfold spawn
  split
  · split
    · exact ⟨rfl, rfl⟩
    · exact ⟨rfl, rfl⟩
    · exact reserve_counts h c
  · exact ⟨rfl, rfl⟩
  · exact ⟨rfl, rfl⟩

theorem spawn_locks (h : Host) (c : RealtimeConfig) (n : Nat) :
    (({ h with locks := n } : Host).spawn c).1 = (h.spawn c).1 := by
  unfold spawn reserve makeThread
  dsimp only
  split
  · split
    · rfl
    · rfl
    · split
      · cases h.reservationFault <;> rfl
      · rfl
  · rfl
  · rfl

/-- Whether a thread can be made does not hang on the locks. -/
theorem spawn_lockedFor (h : Host) (c : RealtimeConfig) :
    ((h.lockedFor c).spawn c).1 = (h.spawn c).1 := by
  unfold lockedFor
  split
  · exact spawn_locks h c _
  · rfl

end Host

/-! ## Cycles -/

/-- A cycle takes in one deviation. -/
theorem Loop.count_cycle (pace : Pace) (l : Loop) (work late : Nat) :
    (l.cycle pace work late).statistics.count = l.statistics.count + 1 := by
  unfold cycle sleep measure elapse
  dsimp only
  split <;> rfl

namespace Task

/-! ## At rest and at work -/

/-- The task has no thread, no loop and no lock. -/
structure AtRest (t : Task) : Prop where
  state_eq : t.state = .idle
  looping_eq : t.looping = false
  thread_eq : t.thread = none
  locked_eq : t.locked = false

/-- The task has a thread, and a lock if it is to have one. The flag is up until the loop is left.
-/
structure AtWork (t : Task) : Prop where
  state_eq : t.state = .running
  hasThread : t.thread.isSome = true
  alive_iff : t.looping = true ↔ ∀ l, t.thread ≠ some (.left l)
  locked_eq : t.locked = t.config.lockMemory

/-- The task that was started. -/
def started (t : Task) : Task :=
  { t with
    state := .running, looping := true, thread := some .made, locked := t.config.lockMemory }

theorem started_atWork (t : Task) : t.started.AtWork := ⟨rfl, rfl, by simp [started], rfl⟩

/-- What a start needs of the configuration and the host. -/
structure CanStart (c : RealtimeConfig) (h : Host) : Prop where
  valid : c.validate = .ok ()
  lockable : c.lockMemory = true → h.lockFault = none
  spawns : (h.spawn c).1 = .ok ()

variable {t : Task}

theorem start_invalid (ht : t.AtRest) {e : SchedulerError} (hc : t.config.validate = .error e)
    (h : Host) : t.start h = (.error e, t, h) := by
  obtain ⟨config, state, looping, thread, locked, statistics⟩ := t
  obtain ⟨rfl, rfl, rfl, rfl⟩ := ht
  simp [start, launch, hc, releaseMemory]

theorem start_unlockable (ht : t.AtRest) (hc : t.config.validate = .ok ())
    (hlock : t.config.lockMemory = true) {h : Host} {e : SystemError} (he : h.lockFault = some e) :
    t.start h = (.error (.memoryLock e), t, h) := by
  obtain ⟨config, state, looping, thread, locked, statistics⟩ := t
  obtain ⟨rfl, rfl, rfl, rfl⟩ := ht
  dsimp only at hc hlock
  simp [start, launch, hc, hlock, Host.lockMemory, he, Except.map, releaseMemory]

/-- Past the lock, a start is at work or gives the lock back. -/
theorem start_lockable (ht : t.AtRest) (hc : t.config.validate = .ok ()) {h : Host}
    (hlock : t.config.lockMemory = true → h.lockFault = none) :
    t.start h =
      match (h.lockedFor t.config).spawn t.config with
      | (.ok (), h') => (.ok (), t.started, h')
      | (.error e, h') => (.error e, t, h'.releasedFor t.config) := by
  obtain ⟨config, state, looping, thread, locked, statistics⟩ := t
  obtain ⟨rfl, rfl, rfl, rfl⟩ := ht
  dsimp only at hc hlock ⊢
  -- without a lock to take the host stays as it is, and nothing is given back
  cases hm : config.lockMemory with
  | false =>
    have hh : h.lockedFor config = h := by simp [Host.lockedFor, hm]
    rw [hh]
    rcases hs : h.spawn config with ⟨_ | _, h'⟩ <;>
      simp [start, launch, hc, hm, hs, started, releaseMemory, Host.releasedFor]
  | true =>
    have hl : h.lockMemory = .ok (h.lockedFor config) := by
      simp [Host.lockMemory, hlock hm, Host.lockedFor, hm]
    rcases hs : (h.lockedFor config).spawn config with ⟨_ | _, h'⟩ <;>
      simp [start, launch, hc, hm, hl, Except.map, hs, started, releaseMemory, Host.releasedFor]

/-- A start gives a task at work, with a lock more if the task is to have one, or leaves the task as
it was and gives back every lock that it took. -/
theorem start_of_atRest (ht : t.AtRest) (h : Host) :
    (CanStart t.config h ∧ ∃ h', t.start h = (.ok (), t.started, h') ∧
      h'.locks = h.locks + (if t.config.lockMemory then 1 else 0) ∧ h'.unlocks = h.unlocks) ∨
    (¬ CanStart t.config h ∧ ∃ e h' n, t.start h = (.error e, t, h') ∧
      h'.locks = h.locks + n ∧ h'.unlocks = h.unlocks + n) := by
  cases hvalid : t.config.validate with
  | error e =>
    refine .inr ⟨fun hc => ?_, e, h, 0, start_invalid ht hvalid h, rfl, rfl⟩
    exact absurd (hvalid.symm.trans hc.valid) (by simp)
  | ok =>
    -- past the lock, what decides is whether the thread can be made; the lock has no say in that
    by_cases hlock : t.config.lockMemory = true → h.lockFault = none
    · have hstart := start_lockable ht hvalid hlock
      obtain ⟨hlocks, hunlocks⟩ := (h.lockedFor t.config).spawn_counts t.config
      have hsame := h.spawn_lockedFor t.config
      rw [h.lockedFor_locks] at hlocks
      rw [h.lockedFor_unlocks] at hunlocks
      rcases hs : (h.lockedFor t.config).spawn t.config with ⟨e | _, h'⟩
      · rw [hs] at hstart hlocks hunlocks hsame
        refine .inr ⟨fun hc => absurd (hsame.trans hc.spawns) (by simp), e, _,
          if t.config.lockMemory then 1 else 0, hstart, ?_, ?_⟩
        · rw [h'.releasedFor_locks, hlocks]
        · rw [h'.releasedFor_unlocks, hunlocks]
      · rw [hs] at hstart hlocks hunlocks hsame
        exact .inl ⟨⟨hvalid, hlock, hsame.symm⟩, h', hstart, hlocks, hunlocks⟩
    · obtain ⟨hm, hfault⟩ := Classical.not_imp.mp hlock
      obtain ⟨e, he⟩ := Option.ne_none_iff_exists'.mp hfault
      exact .inr ⟨fun hc => hlock hc.lockable, _, h, 0, start_unlockable ht hvalid hm he, rfl, rfl⟩

theorem start_of_atWork (ht : t.AtWork) (h : Host) :
    t.start h = (.error .alreadyRunning, t, h) := by
  simp [start, ht.state_eq]

theorem stop_of_atRest (ht : t.AtRest) (h : Host) : t.stop h = (t, h) := by
  simp [stop, ht.state_eq]

/-- The task that was stopped. -/
def stopped (t : Task) : Task :=
  { t with state := .idle, looping := false, thread := none, locked := false }

theorem stopped_atRest (t : Task) : t.stopped.AtRest := ⟨rfl, rfl, rfl, rfl⟩

theorem stop_of_atWork (ht : t.AtWork) (h : Host) :
    t.stop h = (t.stopped, h.releasedFor t.config) := by
  have hlocked := ht.locked_eq
  cases hm : t.config.lockMemory <;>
    simp [stop, ht.state_eq, releaseMemory, stopped, hlocked, hm, Host.releasedFor]

/-! ## The loop -/

/-- Coming to the loop is a matter of the thread. -/
theorem enter_eq (t : Task) (now : Nat) : ∃ thread, t.enter now = { t with thread } := by
  unfold enter
  split
  · exact ⟨_, rfl⟩
  · exact ⟨t.thread, rfl⟩

/-- A turn of the loop is a matter of the thread, the flag and the statistics. -/
theorem turn_eq (t : Task) (c : Call) :
    ∃ looping thread statistics, t.turn c = { t with looping, thread, statistics } := by
  unfold turn
  split
  · split
    · cases c with
      | returns work late => exact ⟨t.looping, _, _, rfl⟩
      | panics => exact ⟨_, _, t.statistics, rfl⟩
    · exact ⟨_, _, t.statistics, rfl⟩
  · exact ⟨t.looping, t.thread, t.statistics, rfl⟩

theorem work_eq (calls : List Call) (t : Task) :
    ∃ looping thread statistics, t.work calls = { t with looping, thread, statistics } := by
  induction calls generalizing t with
  | nil => exact ⟨t.looping, t.thread, t.statistics, rfl⟩
  | cons c calls ih =>
    obtain ⟨looping, thread, statistics, hturn⟩ := t.turn_eq c
    obtain ⟨looping', thread', statistics', hwork⟩ := ih (t.turn c)
    refine ⟨looping', thread', statistics', hwork.trans ?_⟩
    rw [hturn]

theorem enter_atRest (ht : t.AtRest) (now : Nat) : t.enter now = t := by
  simp [enter, ht.thread_eq]

/-- Without a thread nothing is called. -/
theorem work_atRest (ht : t.AtRest) (calls : List Call) : t.work calls = t := by
  induction calls with
  | nil => rfl
  | cons c calls ih =>
    have hturn : t.turn c = t := by simp [turn, ht.thread_eq]
    rw [work, List.foldl_cons, hturn]
    exact ih

theorem enter_atWork (ht : t.AtWork) (now : Nat) : (t.enter now).AtWork := by
  unfold enter
  split
  next hmade =>
    have hup : t.looping = true := ht.alive_iff.2 (by simp [hmade])
    exact ⟨ht.state_eq, rfl, by simp [hup], ht.locked_eq⟩
  next => exact ht

theorem turn_of_made (hmade : t.thread = some .made) (c : Call) : t.turn c = t := by
  simp [turn, hmade]

theorem turn_of_left {l : Loop} (hleft : t.thread = some (.left l)) (c : Call) : t.turn c = t := by
  simp [turn, hleft]

/-- While the flag is up, the loop calls back. -/
theorem turn_of_looping {l : Loop} (hloop : t.thread = some (.looping l)) (hup : t.looping = true)
    (c : Call) : t.turn c =
      match c with
      | .panics => t.leave l
      | .returns work late =>
        let l := Loop.cycle t.config.pace { l with statistics := t.statistics } work late
        { t with thread := some (.looping l), statistics := l.statistics } := by
  unfold turn
  rw [hloop]
  exact if_pos hup

/-- What a turn makes of a task at work: nothing, where its loop was not entered or was left; else
the loop goes on after a call that returned, or is left by one that panicked. -/
theorem turn_cases (ht : t.AtWork) (c : Call) :
    (t.turn c = t ∧ (t.thread = some .made ∨ t.looping = false)) ∨
    (∃ l, c = .panics ∧ t.looping = true ∧ t.turn c = t.leave l) ∨
    ∃ work late l, c = .returns work late ∧ t.looping = true ∧
      t.turn c = { t with thread := some (.looping l), statistics := l.statistics } ∧
      l.statistics.count = t.statistics.count + 1 := by
  cases hthread : t.thread with
  | none => exact absurd ht.hasThread (by simp [hthread])
  | some thread =>
    cases thread with
    | made => exact .inl ⟨turn_of_made hthread c, .inl rfl⟩
    | left l =>
      have hdown : t.looping = false := by
        rw [← Bool.not_eq_true, ht.alive_iff, hthread]
        exact fun h => h l rfl
      exact .inl ⟨turn_of_left hthread c, .inr hdown⟩
    | looping l =>
      have hup : t.looping = true := ht.alive_iff.2 (by simp [hthread])
      have hturn := turn_of_looping hthread hup c
      cases c with
      | panics => exact .inr (.inl ⟨l, rfl, hup, hturn⟩)
      | returns work late =>
        refine .inr (.inr ⟨work, late, _, rfl, hup, hturn, ?_⟩)
        exact Loop.count_cycle t.config.pace { l with statistics := t.statistics } work late

theorem leave_atWork (ht : t.AtWork) (l : Loop) : (t.leave l).AtWork where
  state_eq := ht.state_eq
  hasThread := rfl
  alive_iff := by simp [leave]
  locked_eq := ht.locked_eq

theorem turn_atWork (ht : t.AtWork) (c : Call) : (t.turn c).AtWork := by
  rcases turn_cases ht c with ⟨h, -⟩ | ⟨l, -, -, h⟩ | ⟨work, late, l, -, hup, h, -⟩
  · rw [h]
    exact ht
  · rw [h]
    exact leave_atWork ht l
  · rw [h]
    exact ⟨ht.state_eq, rfl, by simp [hup], ht.locked_eq⟩

theorem work_atWork (ht : t.AtWork) (calls : List Call) : (t.work calls).AtWork := by
  induction calls generalizing t with
  | nil => exact ht
  | cons c calls ih => exact ih (turn_atWork ht c)

/-- The flag goes down for good. -/
theorem work_of_down (ht : t.AtWork) (hdown : t.looping = false) (calls : List Call) :
    t.work calls = t := by
  induction calls with
  | nil => rfl
  | cons c calls ih =>
    rcases turn_cases ht c with ⟨h, -⟩ | ⟨l, -, hup, -⟩ | ⟨work, late, l, -, hup, -⟩
    · rw [work, List.foldl_cons, h]
      exact ih
    · rw [hdown] at hup
      cases hup
    · rw [hdown] at hup
      cases hup

/-- Calls that return are counted one by one, and the loop goes on. -/
theorem work_returns (ht : t.AtWork) (hentered : t.thread ≠ some .made) (hup : t.looping = true)
    {calls : List Call} (hcalls : .panics ∉ calls) :
    (t.work calls).looping = true ∧
      (t.work calls).statistics.count = t.statistics.count + calls.length := by
  induction calls generalizing t with
  | nil => exact ⟨hup, rfl⟩
  | cons c calls ih =>
    obtain ⟨hne, hrest⟩ := not_or.mp (mt List.mem_cons.mpr hcalls)
    rcases turn_cases ht c with ⟨-, hmade | hdown⟩ | ⟨l, hpanic, -⟩ |
      ⟨work, late, l, -, -, h, hcount⟩
    · exact absurd hmade hentered
    · rw [hup] at hdown
      cases hdown
    · exact absurd hpanic.symm hne
    · have hnext := ih (turn_atWork ht c) (by rw [h]; simp) (by rw [h]; exact hup) hrest
      rw [Task.work, List.foldl_cons, ← Task.work]
      refine ⟨hnext.1, hnext.2.trans ?_⟩
      rw [h, hcount, List.length_cons, Nat.add_assoc, Nat.add_comm 1]

/-- A call that panics lowers the flag, and those after it are not made. -/
theorem work_panics (ht : t.AtWork) (hentered : t.thread ≠ some .made) (before after : List Call) :
    (t.work (before ++ .panics :: after)).looping = false ∧
      t.work (before ++ .panics :: after) = t.work (before ++ [.panics]) := by
  induction before generalizing t with
  | nil =>
    -- the thread has come to its loop, so this turn unwinds it or finds it left
    have hdown : (t.turn .panics).looping = false := by
      rcases turn_cases ht .panics with ⟨h, hmade | hdown⟩ | ⟨l, -, -, h⟩ | ⟨work, late, l, hc, -⟩
      · exact absurd hmade hentered
      · rw [h, hdown]
      · rw [h]
        rfl
      · cases hc
    have hwork := work_of_down (turn_atWork ht .panics) hdown after
    refine ⟨?_, hwork⟩
    show ((t.turn .panics).work after).looping = false
    rw [hwork, hdown]
  | cons c before ih =>
    refine ih (turn_atWork ht c) ?_
    rcases turn_cases ht c with ⟨h, -⟩ | ⟨l, -, -, h⟩ | ⟨work, late, l, -, -, h, -⟩
    · rwa [h]
    · rw [h]
      simp [leave]
    · rw [h]
      simp

theorem enter_ne_made (t : Task) (now : Nat) : (t.enter now).thread ≠ some .made := by
  unfold enter
  split
  · simp
  · assumption

end Task

/-! ## A life -/

/-- A task and the host that it runs on. -/
structure Life where
  task : Task
  host : Host
  deriving DecidableEq, Repr, Inhabited

namespace Life

/-- What happens to a task: it is started on a host with these faults, its thread comes to the loop,
the loop makes calls, of which any may panic, or the task is stopped. -/
inductive Act where
  | start (faults : Faults)
  | enter (now : Nat)
  | work (calls : List Call)
  | stop
  deriving DecidableEq, Repr, Inhabited

/-- A task that was not started yet. -/
def begin (config : RealtimeConfig) (backend : Backend) : Life :=
  ⟨Task.new config, Host.new backend⟩

/-- What an act makes of a life. -/
def step (s : Life) : Act → Life
  | .start faults =>
    let (_, task, host) := s.task.start (s.host.suffer faults)
    ⟨task, host⟩
  | .enter now => { s with task := s.task.enter now }
  | .work calls => { s with task := s.task.work calls }
  | .stop => ⟨(s.task.stop s.host).1, (s.task.stop s.host).2⟩

/-- Acts one after another. -/
def run (s : Life) (acts : List Act) : Life := acts.foldl step s

/-- The thread comes to its loop, if it has not yet, and makes calls. -/
def call (s : Life) (now : Nat) (calls : List Call) : Life := s.run [.enter now, .work calls]

/-- The task is at rest or at work, and the locks not given back are its own. -/
structure Kept (config : RealtimeConfig) (s : Life) : Prop where
  config_eq : s.task.config = config
  settled : s.task.AtRest ∨ s.task.AtWork
  balance : s.host.locks = s.host.unlocks + if s.task.locked then 1 else 0

variable {config : RealtimeConfig} {s : Life}

theorem kept_begin (config : RealtimeConfig) (backend : Backend) :
    Kept config (begin config backend) :=
  ⟨rfl, .inl ⟨rfl, rfl, rfl, rfl⟩, rfl⟩

theorem kept_start (hs : Kept config s) (faults : Faults) :
    Kept config (s.step (.start faults)) := by
  obtain ⟨rfl, hrest | hwork, hbalance⟩ := hs
  · rw [hrest.locked_eq] at hbalance
    obtain ⟨-, h, hstart, hlocks, hunlocks⟩ | ⟨-, e, h, n, hstart, hlocks, hunlocks⟩ :=
      Task.start_of_atRest hrest (s.host.suffer faults)
    · simp only [step, hstart]
      refine ⟨rfl, .inr s.task.started_atWork, ?_⟩
      rw [hlocks, hunlocks]
      exact congrArg (· + _) hbalance
    · simp only [step, hstart]
      refine ⟨rfl, .inl hrest, ?_⟩
      rw [hlocks, hunlocks, hrest.locked_eq]
      exact congrArg (· + n) hbalance
  · simp only [step, Task.start_of_atWork hwork]
    exact ⟨rfl, .inr hwork, hbalance⟩

/-- What a thread does is a matter of its own: it changes neither the configuration nor the lock. -/
theorem Kept.of_thread (hs : Kept config s) {task : Task}
    (heq : ∃ looping thread statistics, task = { s.task with looping, thread, statistics })
    (hrest : s.task.AtRest → task = s.task) (hwork : s.task.AtWork → task.AtWork) :
    Kept config { s with task } := by
  obtain ⟨hconfig, hsettled, hbalance⟩ := hs
  refine ⟨?_, hsettled.imp (fun h => ?_) hwork, ?_⟩
  · obtain ⟨looping, thread, statistics, rfl⟩ := heq
    exact hconfig
  · rw [hrest h]
    exact h
  · obtain ⟨looping, thread, statistics, rfl⟩ := heq
    exact hbalance

theorem kept_enter (hs : Kept config s) (now : Nat) : Kept config (s.step (.enter now)) := by
  obtain ⟨thread, henter⟩ := s.task.enter_eq now
  exact hs.of_thread ⟨s.task.looping, thread, s.task.statistics, henter⟩
    (fun hrest => Task.enter_atRest hrest now) fun hwork => Task.enter_atWork hwork now

theorem kept_work (hs : Kept config s) (calls : List Call) :
    Kept config (s.step (.work calls)) :=
  hs.of_thread (s.task.work_eq calls) (fun hrest => Task.work_atRest hrest calls)
    fun hwork => Task.work_atWork hwork calls

theorem kept_stop (hs : Kept config s) : Kept config (s.step .stop) := by
  obtain ⟨rfl, hrest | hwork, hbalance⟩ := hs
  · simp only [step, Task.stop_of_atRest hrest]
    exact ⟨rfl, .inl hrest, hbalance⟩
  · simp only [step, Task.stop_of_atWork hwork]
    refine ⟨rfl, .inl s.task.stopped_atRest, ?_⟩
    rw [s.host.releasedFor_locks, s.host.releasedFor_unlocks, hbalance, hwork.locked_eq]
    rfl

theorem kept_step (hs : Kept config s) (a : Act) : Kept config (s.step a) := by
  cases a with
  | start faults => exact kept_start hs faults
  | enter now => exact kept_enter hs now
  | work calls => exact kept_work hs calls
  | stop => exact kept_stop hs

theorem kept_run (hs : Kept config s) (acts : List Act) : Kept config (s.run acts) := by
  induction acts generalizing s with
  | nil => exact hs
  | cons a acts ih => exact ih (kept_step hs a)

/-! ### A loop that is over -/

theorem isRunning_of_atWork (hwork : s.task.AtWork) : s.task.isRunning = s.task.looping := by
  simp [Task.isRunning, hwork.state_eq]

/-- Only a stop ends work, and nothing brings a loop back that is over. -/
theorem ended_step (hwork : s.task.AtWork) {a : Act} (ha : a ≠ .stop) :
    (s.step a).task.AtWork ∧
      (s.task.isRunning = false → (s.step a).task.isRunning = false) := by
  cases a with
  | start faults =>
    simp only [step, Task.start_of_atWork hwork]
    exact ⟨hwork, id⟩
  | enter now =>
    obtain ⟨thread, henter⟩ := s.task.enter_eq now
    refine ⟨Task.enter_atWork hwork now, ?_⟩
    rw [step, henter]
    exact id
  | work calls =>
    refine ⟨Task.work_atWork hwork calls, fun hover => ?_⟩
    rw [isRunning_of_atWork hwork] at hover
    rw [step, Task.work_of_down hwork hover, isRunning_of_atWork hwork, hover]
  | stop => exact absurd rfl ha

theorem ended_run (hwork : s.task.AtWork) {acts : List Act} (hacts : Act.stop ∉ acts) :
    (s.run acts).task.AtWork ∧
      (s.task.isRunning = false → (s.run acts).task.isRunning = false) := by
  induction acts generalizing s with
  | nil => exact ⟨hwork, id⟩
  | cons a acts ih =>
    obtain ⟨hne, hrest⟩ := not_or.mp (mt List.mem_cons.mpr hacts)
    obtain ⟨hwork', hover⟩ := ended_step hwork (Ne.symm hne)
    obtain ⟨hwork'', hover'⟩ := ih hwork' hrest
    exact ⟨hwork'', hover' ∘ hover⟩

/-- A call that panics ends the loop, and the calls after it are not made. -/
theorem call_panics (hwork : s.task.AtWork) (now : Nat) (before after : List Call) :
    (s.call now (before ++ .panics :: after)).task.isRunning = false ∧
      s.call now (before ++ .panics :: after) = s.call now (before ++ [.panics]) := by
  have henter := Task.enter_atWork hwork now
  obtain ⟨hdown, hcut⟩ := Task.work_panics henter (s.task.enter_ne_made now) before after
  constructor
  · exact (isRunning_of_atWork (Task.work_atWork henter _)).trans hdown
  · show Life.mk (Task.work _ _) _ = Life.mk (Task.work _ _) _
    exact congrArg (Life.mk · s.host) hcut

/-- Calls that return keep the loop going, and each is counted. -/
theorem call_returns (hwork : s.task.AtWork) (hrunning : s.task.isRunning = true) (now : Nat)
    {calls : List Call} (hcalls : .panics ∉ calls) :
    (s.call now calls).task.isRunning = true ∧
      (s.call now calls).task.statistics.count = s.task.statistics.count + calls.length := by
  have henter := Task.enter_atWork hwork now
  obtain ⟨thread, heq⟩ := s.task.enter_eq now
  have hup : (s.task.enter now).looping = true := by
    rw [heq]
    exact (isRunning_of_atWork hwork).symm.trans hrunning
  obtain ⟨hup', hcount⟩ := Task.work_returns henter (s.task.enter_ne_made now) hup hcalls
  refine ⟨(isRunning_of_atWork (Task.work_atWork henter calls)).trans hup', hcount.trans ?_⟩
  rw [heq]

/-! ### What a task does -/

/-- What an idle task does: it starts wherever it can, and a start that fails leaves it as it is,
with its flag down and no thread. Nothing is called, and a stop changes nothing. -/
structure Idles (config : RealtimeConfig) (s : Life) : Prop where
  looping_eq : s.task.looping = false
  thread_eq : s.task.thread = none
  start_ok_iff : ∀ h, (s.task.start h).1 = .ok () ↔ Task.CanStart config h
  start_ok : ∀ h, (s.task.start h).1 = .ok () → (s.task.start h).2.1 = s.task.started
  start_error : ∀ h e, (s.task.start h).1 = .error e → (s.task.start h).2.1 = s.task
  call_eq : ∀ now calls, s.call now calls = s
  stop_eq : s.step .stop = s

/-- What a running task does: it has a thread, and a start is refused and changes nothing. Its loop
is alive until it is left, goes on as long as calls return, and counts them. A call that panics ends
it, and no call after that is made; the task stays running with no loop, however its loop was ended,
until it is stopped. A stop makes it idle. -/
structure Runs (s : Life) : Prop where
  hasThread : s.task.thread.isSome = true
  start_eq : ∀ h, s.task.start h = (.error .alreadyRunning, s.task, h)
  alive_iff : s.task.isRunning = true ↔ ∀ l, s.task.thread ≠ some (.left l)
  returned : s.task.isRunning = true → ∀ now calls, .panics ∉ calls →
    (s.call now calls).task.isRunning = true ∧
      (s.call now calls).task.statistics.count = s.task.statistics.count + calls.length
  panicked : ∀ now before after acts, Act.stop ∉ acts →
    s.call now (before ++ .panics :: after) = s.call now (before ++ [.panics]) ∧
      ((s.call now (before ++ .panics :: after)).run acts).task.state = .running ∧
      ((s.call now (before ++ .panics :: after)).run acts).task.isRunning = false
  ended : s.task.isRunning = false → ∀ acts, Act.stop ∉ acts →
    (s.run acts).task.state = .running ∧ (s.run acts).task.isRunning = false
  stop_state : (s.step .stop).task.state = .idle

theorem idles_of_atRest (hc : s.task.config = config) (hrest : s.task.AtRest) : Idles config s where
  looping_eq := hrest.looping_eq
  thread_eq := hrest.thread_eq
  start_ok_iff h := by
    subst hc
    obtain ⟨hcan, _, hstart, -⟩ | ⟨hcan, _, _, _, hstart, -⟩ := Task.start_of_atRest hrest h
    · simp [hstart, hcan]
    · simp [hstart, hcan]
  start_ok h hok := by
    obtain ⟨-, _, hstart, -⟩ | ⟨-, _, _, _, hstart, -⟩ := Task.start_of_atRest hrest h
    · rw [hstart]
    · simp [hstart] at hok
  start_error h e herror := by
    obtain ⟨-, _, hstart, -⟩ | ⟨-, _, _, _, hstart, -⟩ := Task.start_of_atRest hrest h
    · simp [hstart] at herror
    · rw [hstart]
  call_eq now calls := by
    show Life.mk ((s.task.enter now).work calls) s.host = s
    rw [Task.enter_atRest hrest, Task.work_atRest hrest]
  stop_eq := by simp [step, Task.stop_of_atRest hrest]

theorem runs_of_atWork (hwork : s.task.AtWork) : Runs s where
  hasThread := hwork.hasThread
  start_eq := Task.start_of_atWork hwork
  alive_iff := by rw [isRunning_of_atWork hwork, hwork.alive_iff]
  returned hrunning now _ hcalls := call_returns hwork hrunning now hcalls
  panicked now before after acts hacts := by
    obtain ⟨hover, hcut⟩ := call_panics hwork now before after
    have hcalled : (s.call now (before ++ .panics :: after)).task.AtWork :=
      Task.work_atWork (Task.enter_atWork hwork now) _
    obtain ⟨hwork', hstays⟩ := ended_run hcalled hacts
    exact ⟨hcut, hwork'.state_eq, hstays hover⟩
  ended hdead acts hacts := by
    obtain ⟨hwork', hover⟩ := ended_run hwork hacts
    exact ⟨hwork'.state_eq, hover hdead⟩
  stop_state := by simp [step, Task.stop_of_atWork hwork, Task.stopped]

/-- A task that is given up gives its lock back. -/
theorem drop_balance (hs : Kept config s) :
    (s.task.drop s.host).locks = (s.task.drop s.host).unlocks := by
  have hstopped := kept_stop hs
  have hrest : (s.step .stop).task.locked = false := by
    obtain hrest | hwork := hs.settled
    · simp [step, Task.stop_of_atRest hrest, hrest.locked_eq]
    · simp [step, Task.stop_of_atWork hwork, Task.stopped]
  have hbalance := hstopped.balance
  rw [hrest] at hbalance
  exact hbalance

/-- **The life of a task.** Wherever its acts lead, a task is idle or running and does what it says
there; of the locks on memory exactly that of a running task was not given back, and none once it is
given up. -/
theorem life_cycle_is_kept (config : RealtimeConfig) (backend : Backend) (acts : List Act) :
    let s := (begin config backend).run acts
    (s.task.state = .idle ∧ Idles config s ∨ s.task.state = .running ∧ Runs s) ∧
      (s.host.locks : Int) - s.host.unlocks =
        (if s.task.state = .running ∧ config.lockMemory = true then 1 else 0) ∧
      (s.task.drop s.host).locks = (s.task.drop s.host).unlocks := by
  intro s
  have hs : Kept config s := kept_run (kept_begin config backend) acts
  refine ⟨?_, ?_, drop_balance hs⟩
  · exact hs.settled.imp (fun h => ⟨h.state_eq, idles_of_atRest hs.config_eq h⟩)
      fun h => ⟨h.state_eq, runs_of_atWork h⟩
  · have hbalance := hs.balance
    obtain hrest | hwork := hs.settled
    · rw [hrest.locked_eq] at hbalance
      simp [hrest.state_eq, hbalance]
    · rw [hwork.locked_eq, hs.config_eq] at hbalance
      rw [hbalance]
      cases config.lockMemory with
      | false => simp
      | true =>
        simp only [hwork.state_eq, and_self, if_true]
        omega

/-- No thread can be made, then the second call panics: one lock was given back, one is held, and
one call was recorded. -/
example :
    let s := (begin .standard .scripted).run
      [.start ⟨none, some ⟨11⟩, none⟩, .start default, .enter 0, .work [.returns 5 0, .panics]]
    s.task.state = .running ∧ s.task.isRunning = false ∧ s.task.statistics.count = 1 ∧
      s.host.locks = 2 ∧ s.host.unlocks = 1 := by
  decide +kernel

end Life

end Telemetry.Scheduling
