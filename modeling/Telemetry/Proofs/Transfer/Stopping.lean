import Mathlib
import Telemetry.Proofs.Ring.Queue
import Telemetry.Proofs.Transfer.Receiving
import Telemetry.Transfer.Worker

/-!
# Stopping a consumer

A consumer's worker beside a writer: whole writes, the request to stop and the steps of the worker
come in any order. The worker is to drain the ring before it honours the request, but its read and
its look at the flag are two steps, and both a write and the request fit between them. What a
stopped worker has handled is known exactly: the messages that were written before it last found the
ring empty (`Sound.of_stopped`). So nothing that was written before the request is lost if and only
if no write came between that read and the request (`lossless_iff_nothing_came_between`), and the
shortest run that loses a message is `write_before_stop_is_lost`.

## How the proof goes

Beside the worker runs an account (`Shift`): what was written, what was handled, and how much was
written at two moments, the last read that found nothing and the first request to stop. `Sound` says
that the account is right, and that a worker which is not about to read has handled all that was
written at the first of these moments. Each kind of step keeps it: a write, a request, a read of an
empty ring, a read of a message, a look at the flag (`sound_write`, `sound_stop`, `sound_work_nil`,
`sound_work_cons`, `sound_work_check`), and `sound_run` is the induction on the actions. Once the
worker has stopped, what was handled and what was written before the request are two beginnings of
one list, and the shorter is a prefix of the longer.
-/

namespace Telemetry

open Telemetry.Ring (Queue Exact)

/-- A message that was read is handed to the receiver, and the worker goes on. -/
theorem Worker.settle_ok {σ : Type} (w : Worker) (publisher : Publisher σ) (state : σ) (fill : Nat)
    (m : Bytes) : ∃ receiver state', w.settle publisher state fill (.ok m)
        = ({ w with receiver }, state') ∧
      receiver.counts.framesReceived = w.receiver.counts.framesReceived + 1 := by
  have hframes := Receiver.framesReceived_handle publisher (w.receiver.noteFill fill) state m
  rw [settle]
  split
  next receiver state' hhandle =>
    rw [hhandle] at hframes
    exact ⟨receiver, state', rfl, hframes⟩
  next receiver state' hhandle =>
    rw [hhandle] at hframes
    exact ⟨receiver.countError, state', rfl, hframes⟩

/-! ## Runs -/

/-- A worker at a ring, with an account of what was written and what was handled. -/
structure Shift (σ : Type) where
  ring : Ring
  worker : Worker
  published : σ
  /-- The flag that tells the worker to go on. -/
  running : Bool
  /-- The messages that the ring took, oldest first. -/
  written : List Bytes
  /-- The messages that were handed to the receiver, oldest first. -/
  handled : List Bytes
  /-- How many messages were written when the worker last found the ring empty. -/
  atEmpty : Nat
  /-- How many messages were written when the worker was first told to stop. -/
  atStop : Option Nat
  /-- Whether a read failed otherwise than for want of a message. -/
  damaged : Bool

namespace Shift

/-- What can happen next. -/
inductive Action where
  /-- A whole write of a message. -/
  | write (m : Bytes)
  /-- The worker is told to stop. -/
  | stop
  /-- One step of the worker: a read with all that follows from it, or a look at the flag. -/
  | work
  deriving DecidableEq, Repr

variable {σ : Type}

/-- The account of what the worker is about to read. -/
def account (s : Shift σ) : Shift σ :=
  if s.worker.phase = .reading then
    match s.ring.read.1 with
    | .ok m => { s with handled := s.handled ++ [m] }
    | .error .empty => { s with atEmpty := s.written.length }
    | .error _ => { s with damaged := true }
  else s

/-- One action. -/
def step (publisher : Publisher σ) (s : Shift σ) : Action → Shift σ
  | .write m =>
    match s.ring.write m with
    | (.ok (), ring) => { s with ring, written := s.written ++ [m] }
    | (.error _, ring) => { s with ring }
  | .stop => { s with running := false, atStop := some (s.atStop.getD s.written.length) }
  | .work =>
    let (worker, ring, published) := s.worker.step publisher s.running s.ring s.published
    { s.account with worker, ring, published }

/-- One action after another. -/
def run (publisher : Publisher σ) (s : Shift σ) (actions : List Action) : Shift σ :=
  actions.foldl (step publisher) s

/-- A worker about to start at a ring. -/
def start (ring : Ring) (receiver : Receiver) (published : σ) : Shift σ where
  ring := ring
  worker := Worker.start receiver
  published := published
  running := true
  written := []
  handled := []
  atEmpty := 0
  atStop := none
  damaged := false

/-- Every message that was written before the worker was told to stop was handled. -/
def Lossless (s : Shift σ) : Prop := ∀ n, s.atStop = some n → s.written.take n <+: s.handled

/-! ## What every run keeps -/

/-- The account is right: what was written is what was handled and what the ring still carries, and
a worker that is not about to read had handled everything when it last read. -/
structure Sound (s : Shift σ) (capacity received read : Nat) (q : Queue) : Prop where
  capacity_eq : s.ring.capacity = capacity
  carries : s.ring.Carries read q
  written_eq : s.written = s.handled ++ q
  count_eq : read + q.used = Queue.used s.written
  intact : s.damaged = false
  received_eq : s.worker.receiver.counts.framesReceived = received + s.handled.length
  running_iff : s.running = false ↔ s.atStop.isSome
  atStop_le : ∀ n, s.atStop = some n → n ≤ s.written.length
  atEmpty_le : s.atEmpty ≤ s.written.length
  caught_up : s.worker.phase ≠ .reading → s.handled = s.written.take s.atEmpty
  stopped : s.worker.phase = .stopped → s.running = false

variable {publisher : Publisher σ} {s : Shift σ} {capacity received read : Nat} {q : Queue}

theorem sound_start {ring : Ring} (h : ring.Carries 0 []) (receiver : Receiver) (published : σ) :
    (start ring receiver published).Sound ring.capacity receiver.counts.framesReceived 0 [] where
  capacity_eq := rfl
  carries := h
  written_eq := rfl
  count_eq := rfl
  intact := rfl
  received_eq := rfl
  running_iff := by simp [start]
  atStop_le := by simp [start]
  atEmpty_le := Nat.le_refl _
  caught_up := by simp [start, Worker.start]
  stopped := by simp [start, Worker.start]

/-- A write that the ring takes is one message more, and one that it refuses changes nothing. -/
theorem sound_write (h : s.Sound capacity received read q) (m : Bytes)
    (hexact : Exact capacity (Queue.used (s.step publisher (.write m)).written)) :
    ∃ q', (s.step publisher (.write m)).Sound capacity received read q' := by
  have hwrite := h.carries.write_eq m
  rw [step, hwrite] at hexact ⊢
  by_cases hlong : s.ring.capacity / 2 < m.length
  · rw [if_pos hlong]
    exact ⟨q, { h with }⟩
  · rw [if_neg hlong] at hexact ⊢
    by_cases hfull : s.ring.capacity < q.used + Ring.footprint m
    · rw [if_pos hfull]
      exact ⟨q, { h with }⟩
    · rw [if_neg hfull] at hexact ⊢
      have hused : Queue.used (s.written ++ [m]) = read + q.used + Ring.footprint m := by
        rw [Queue.used_append, ← h.count_eq, Queue.used_cons, Queue.used_nil]
        omega
      have hcarries := h.carries.append_carries (Nat.le_of_not_lt hlong) (Nat.le_of_not_lt hfull)
        (by rw [← hused, h.capacity_eq]; exact hexact)
      refine ⟨q ++ [m], { h with
        capacity_eq := (Ring.capacity_append _ _).trans h.capacity_eq
        carries := hcarries
        written_eq := ?_
        count_eq := ?_
        atStop_le := ?_
        atEmpty_le := ?_
        caught_up := ?_ }⟩
      · rw [h.written_eq, List.append_assoc]
      · rw [hused, Queue.used_append, Queue.used_cons, Queue.used_nil]
        omega
      · intro n hn
        rw [List.length_append]
        exact Nat.le_add_right_of_le (h.atStop_le n hn)
      · rw [List.length_append]
        exact Nat.le_add_right_of_le h.atEmpty_le
      · -- the new message comes behind all that was there when the ring was last empty
        intro hphase
        rw [List.take_append_of_le_length h.atEmpty_le]
        exact h.caught_up hphase

/-- Only the first request to stop is entered into the account. -/
theorem sound_stop (h : s.Sound capacity received read q) :
    (s.step publisher .stop).Sound capacity received read q := by
  refine { h with
    running_iff := by simp [step]
    atStop_le := ?_
    stopped := fun _ => rfl }
  intro n hn
  cases hstop : s.atStop with
  | none =>
    rw [step, hstop] at hn
    cases hn
    exact Nat.le_refl _
  | some k =>
    rw [step, hstop] at hn
    cases hn
    exact h.atStop_le _ hstop

/-- A worker that finds the ring empty has handled all that was written. -/
theorem sound_work_nil (h : s.Sound capacity received read [])
    (hphase : s.worker.phase = .reading) :
    (s.step publisher .work).Sound capacity received read [] := by
  have hread := h.carries.read_nil
  have hall : s.written = s.handled := by rw [h.written_eq, List.append_nil]
  have hstep : s.step publisher .work
      = { s with
          atEmpty := s.written.length
          worker := ⟨s.worker.receiver.noteFill 0, .checking⟩ } := by
    simp only [step, account, Worker.step, if_pos hphase, Worker.attempt, Worker.settle, hread]
  rw [hstep]
  exact { h with
    atEmpty_le := Nat.le_refl _
    caught_up := fun _ => by rw [← hall, List.take_length]
    stopped := fun hstopped => by cases hstopped }

/-- A worker that finds a message hands it to the receiver. -/
theorem sound_work_cons {m : Bytes} (h : s.Sound capacity received read (m :: q))
    (hphase : s.worker.phase = .reading) :
    (s.step publisher .work).Sound capacity received (read + Ring.footprint m) q := by
  have hread := h.carries.read_cons
  obtain ⟨receiver, published, hsettle, hreceived⟩ := s.worker.settle_ok publisher s.published
    (s.ring.drop m).availableRead m
  have hstep : s.step publisher .work
      = { s with
          handled := s.handled ++ [m], ring := s.ring.drop m, published
          worker := { s.worker with receiver } } := by
    simp only [step, account, Worker.step, if_pos hphase, Worker.attempt, hread, hsettle]
  rw [hstep]
  exact { h with
    capacity_eq := (Ring.capacity_drop _ _).trans h.capacity_eq
    carries := h.carries.drop_carries
    written_eq := by rw [h.written_eq, List.append_assoc, List.singleton_append]
    count_eq := by rw [← h.count_eq, Queue.used_cons, Nat.add_assoc]
    received_eq := by rw [hreceived, h.received_eq, List.length_append, List.length_singleton,
      Nat.add_assoc]
    caught_up := fun hother => absurd hphase hother
    stopped := fun hstopped => h.stopped hstopped }

/-- A look at the flag touches neither the ring nor the account. -/
theorem sound_work_check (h : s.Sound capacity received read q)
    (hphase : s.worker.phase ≠ .reading) :
    (s.step publisher .work).Sound capacity received read q := by
  have hstep : s.step publisher .work = { s with worker := s.worker.check s.running } := by
    simp only [step, account, Worker.step, if_neg hphase]
  rw [hstep, Worker.check]
  -- the flag sends it back to reading, or out of the loop; after that nothing happens
  by_cases hchecking : s.worker.phase = .checking
  · rw [if_pos hchecking]
    by_cases hrunning : s.running = true
    · rw [if_pos hrunning]
      exact { h with
        caught_up := fun hother => absurd rfl hother
        stopped := fun hstopped => by cases hstopped }
    · rw [if_neg hrunning]
      exact { h with
        caught_up := fun _ => h.caught_up hphase
        stopped := fun _ => Bool.eq_false_iff.2 hrunning }
  · rw [if_neg hchecking]
    exact h

theorem written_account (s : Shift σ) : s.account.written = s.written := by
  rw [account]
  split
  · split
    · rfl
    · rfl
    · rfl
  · rfl

/-- What was written stays written. -/
theorem written_step (publisher : Publisher σ) (s : Shift σ) (action : Action) :
    ∃ more, (s.step publisher action).written = s.written ++ more := by
  cases action with
  | write m =>
    rw [step]
    split
    · exact ⟨[m], rfl⟩
    · exact ⟨[], (List.append_nil _).symm⟩
  | stop => exact ⟨[], (List.append_nil _).symm⟩
  | work =>
    refine ⟨[], ?_⟩
    rw [List.append_nil, step]
    split
    exact written_account s

theorem written_run (publisher : Publisher σ) : ∀ (actions : List Action) (s : Shift σ),
    ∃ more, (s.run publisher actions).written = s.written ++ more
  | [], s => ⟨[], (List.append_nil _).symm⟩
  | action :: actions, s => by
      obtain ⟨more, hstep⟩ := written_step publisher s action
      obtain ⟨rest, hrun⟩ := written_run publisher actions (s.step publisher action)
      exact ⟨more ++ rest, by rw [← List.append_assoc, ← hstep, ← hrun]; rfl⟩

theorem sound_step (h : s.Sound capacity received read q) (action : Action)
    (hexact : Exact capacity (Queue.used (s.step publisher action).written)) :
    ∃ read' q', (s.step publisher action).Sound capacity received read' q' := by
  cases action with
  | write m =>
    obtain ⟨q', hwrite⟩ := sound_write h m hexact
    exact ⟨read, q', hwrite⟩
  | stop => exact ⟨read, q, sound_stop h⟩
  | work =>
    by_cases hphase : s.worker.phase = .reading
    · cases q with
      | nil => exact ⟨read, [], sound_work_nil h hphase⟩
      | cons m q => exact ⟨_, q, sound_work_cons h hphase⟩
    · exact ⟨read, q, sound_work_check h hphase⟩

theorem sound_run : ∀ (actions : List Action) {s : Shift σ} {read : Nat} {q : Queue},
    s.Sound capacity received read q →
    Exact capacity (Queue.used (s.run publisher actions).written) →
    ∃ read' q', (s.run publisher actions).Sound capacity received read' q'
  | [], _, read, q, h, _ => ⟨read, q, h⟩
  | action :: actions, s, _, _, h, hexact => by
      -- what is written only grows, so it could be counted after the first action too
      obtain ⟨more, hmore⟩ := written_run publisher actions (s.step publisher action)
      have hfirst : Exact capacity (Queue.used (s.step publisher action).written) :=
        hexact.mono (by rw [run, List.foldl_cons, ← run, hmore, Queue.used_append]; omega)
      obtain ⟨_, _, hstep⟩ := sound_step h action hfirst
      exact sound_run actions hstep hexact

/-! ## What a stopped worker leaves behind -/

/-- A worker that has stopped had been told to, and has handled exactly the messages that were
written before it last found the ring empty. -/
theorem Sound.of_stopped (h : s.Sound capacity received read q)
    (hstopped : s.worker.phase = .stopped) :
    s.handled = s.written.take s.atEmpty ∧ ∃ n, s.atStop = some n := by
  refine ⟨h.caught_up (by rw [hstopped]; decide), ?_⟩
  exact Option.isSome_iff_exists.1 (h.running_iff.1 (h.stopped hstopped))

/-- A worker beside a writer at a new ring, in whatever order writes, requests to stop and steps of
the worker come: no read finds the ring damaged, and when the loop is over the worker was told to
stop and has handled, each once and in order, the messages that were written before it last found
the ring empty, and no others. So no message that was written before the request is lost if and only
if none was written between that read and the request. The bytes ever written must be countable in
64 bits, unless the capacity divides 2^64. -/
theorem lossless_iff_nothing_came_between {capacity : Nat} {new : Ring}
    (hnew : Ring.create capacity = .ok new) (writer reader : Nat) (publisher : Publisher σ)
    (receiver : Receiver) (published : σ) (actions : List Action) {s : Shift σ}
    (hrun : run publisher (start ((new.claimWriter writer).claimReader reader) receiver published)
      actions = s)
    (hexact : Exact capacity (Queue.used s.written)) (hstopped : s.worker.phase = .stopped) :
    s.damaged = false ∧
      s.worker.receiver.counts.framesReceived
        = receiver.counts.framesReceived + s.handled.length ∧
      s.handled = s.written.take s.atEmpty ∧
      ∃ n, s.atStop = some n ∧ (s.Lossless ↔ n ≤ s.atEmpty) := by
  obtain ⟨hcapacity, hcarries⟩ := Ring.create_eq_ok hnew
  have hstart := sound_start (Ring.claimReader_carries (Ring.claimWriter_carries hcarries writer)
    reader) receiver published
  have hring : ((new.claimWriter writer).claimReader reader).capacity = capacity := by
    rw [Ring.capacity_claimReader, Ring.capacity_claimWriter, hcapacity]
  rw [hring] at hstart
  obtain ⟨_, _, h⟩ := sound_run actions hstart (hrun ▸ hexact)
  rw [hrun] at h
  obtain ⟨hhandled, n, hstop⟩ := h.of_stopped hstopped
  refine ⟨h.intact, h.received_eq, hhandled, n, hstop, ?_⟩
  -- of two prefixes of what was written the one with fewer messages is a prefix of the other
  have hle : n ≤ s.written.length := h.atStop_le n hstop
  have hprefix : s.written.take n <+: s.handled ↔ n ≤ s.atEmpty := by
    rw [hhandled, List.prefix_take_iff, List.length_take, Nat.min_eq_left hle]
    exact and_iff_right (List.take_prefix n s.written)
  rw [← hprefix]
  constructor
  · intro hlossless
    exact hlossless n hstop
  · intro hn k hk
    rw [hstop] at hk
    cases hk
    exact hn

/-- The last message is written after the worker was told to stop, and the worker, which has
found the ring empty before, leaves it behind. -/
theorem lossless_when_told_after_a_look :
    ∃ new, Ring.create 8 = .ok new ∧
      let s := run Publisher.logging (start ((new.claimWriter 1).claimReader 2)
        (Receiver.new "plc" .perVariable) ⟨0, 0⟩)
        [.work, .write [7], .work, .work, .write [8], .stop, .work, .work, .write [9], .work]
      Exact 8 (Queue.used s.written) ∧ s.worker.phase = .stopped ∧ s.written = [[7], [8], [9]] ∧
        s.handled = [[7], [8]] ∧ s.Lossless := by
  refine ⟨_, rfl, ?_⟩
  intro s
  have hwritten : s.written = [[7], [8], [9]] := by cbv
  have hexact : Exact 8 (Queue.used s.written) := by
    rw [hwritten]
    exact .inl (by decide)
  have hstopped : s.worker.phase = .stopped := by cbv
  obtain ⟨_, _, hhandled, n, hstop, hiff⟩ := lossless_iff_nothing_came_between
    (show Ring.create 8 = .ok _ from rfl) 1 2 Publisher.logging (Receiver.new "plc" .perVariable)
    ⟨0, 0⟩
    [.work, .write [7], .work, .work, .write [8], .stop, .work, .work, .write [9], .work] rfl
    hexact hstopped
  have hempty : s.atEmpty = 2 := by cbv
  have hn : s.atStop = some 2 := by cbv
  rw [hn] at hstop
  cases hstop
  refine ⟨hexact, hstopped, hwritten, ?_, ?_⟩
  · rw [hhandled, hwritten, hempty]
    rfl
  · exact hiff.2 (Nat.le_of_eq hempty.symm)

/-- The shortest run that loses a message: the worker finds the ring empty, a message is written,
the worker is told to stop, and then it looks at the flag. -/
theorem write_before_stop_is_lost :
    ∃ new, Ring.create 8 = .ok new ∧
      let s := run Publisher.logging (start ((new.claimWriter 1).claimReader 2)
        (Receiver.new "plc" .perVariable) ⟨0, 0⟩) [.work, .write [7], .stop, .work]
      s.worker.phase = .stopped ∧ s.damaged = false ∧ s.written = [[7]] ∧ s.atStop = some 1 ∧
        s.handled = [] ∧ ¬ s.Lossless := by
  refine ⟨_, rfl, ?_⟩
  intro s
  have hstop : s.atStop = some 1 := by cbv
  have hwritten : s.written = [[7]] := by cbv
  have hhandled : s.handled = [] := by cbv
  refine ⟨by cbv, by cbv, hwritten, hstop, hhandled, ?_⟩
  intro hlossless
  have hprefix := hlossless 1 hstop
  rw [hwritten, hhandled] at hprefix
  cases List.prefix_nil.1 hprefix

end Shift

end Telemetry
