import Mathlib.Algebra.Order.Ring.Nat
import Mathlib.Data.List.Induction
import Telemetry.Proofs.Batch.Readiness
import Telemetry.Transfer.Sender

/-!
# What waits stays bounded

A sender adds the samples of a poll one after another, asks after each of them whether the batch is
ready, and asks once more at the end; the clock may go on in between (`Sender.visit`). A batch only
grows while it is asked, and a clock only goes on, so it comes to the same as asking once at the end
(`visit_eq_cycle`).

A batch that is ready is sent, and whatever becomes of its frame (written, dropped for a full ring,
too large for the ring, or never built) nothing waits any more and its clock is restarted
(`batch_flush`). So between two cycles less waits than makes a batch ready, it waits for less than
the time that makes one ready, and it came since the clock was last restarted
(`pending_stays_bounded`).
-/

namespace Telemetry

/-! ## Batches -/

namespace Batch

/-- A batch that is ready stays ready as samples are added and time goes by. -/
theorem isReady_foldl_push {b : Batch} {now later : Nat} (hlater : now ≤ later)
    (samples : List Variable) (hready : b.isReady now = true) :
    (samples.foldl push b).isReady later = true := by
  rw [isReady_eq_true_iff] at hready ⊢
  rw [foldl_push_eq]
  rcases hready with hsize | htime
  · left
    rw [size, Array.size_append]
    exact Nat.le_add_right_of_le hsize
  · right
    exact htime.trans (Nat.sub_le_sub_right hlater _)

/-- Adds samples, each after some nanoseconds, and says whether the batch was found ready after any
of them. -/
def addAll (b : Batch) (now : Nat) : List (Nat × Variable) → Bool × Batch
  | [] => (false, b)
  | (nanos, v) :: polled =>
    let (ready, b) := b.addAt v (now + nanos)
    let (more, b) := b.addAll (now + nanos) polled
    (ready || more, b)

theorem addAll_snd (polled : List (Nat × Variable)) (b : Batch) (now : Nat) :
    (b.addAll now polled).2 = (polled.map Prod.snd).foldl push b := by
  induction polled generalizing b now with
  | nil => rfl
  | cons p polled ih => exact ih (b.push p.2) (now + p.1)

/-- A batch that was found ready after some sample is ready at the end. -/
theorem isReady_of_addAll (polled : List (Nat × Variable)) {b : Batch} {now later : Nat}
    (hlater : now + (polled.map Prod.fst).sum ≤ later) (hready : (b.addAll now polled).1 = true) :
    (b.addAll now polled).2.isReady later = true := by
  induction polled generalizing b now with
  | nil => cases hready
  | cons p polled ih =>
      obtain ⟨nanos, v⟩ := p
      rw [List.map_cons, List.sum_cons, ← Nat.add_assoc] at hlater
      rcases Bool.or_eq_true_iff.1 hready with hnow | hmore
      · have hle : now + nanos ≤ later := (Nat.le_add_right _ _).trans hlater
        rw [addAll_snd]
        exact isReady_foldl_push hle (polled.map Prod.snd) hnow
      · exact ih hlater hmore

end Batch

/-! ## Cycles -/

/-- What a cycle of a sender meets. -/
structure Round where
  /-- The time at which it begins to poll. -/
  began : Nat
  /-- The samples of the poll, each with the nanoseconds that go by before it is added. -/
  polled : List (Nat × Variable)
  /-- How many samples the poll says these are. -/
  reported : Nat
  /-- The nanoseconds that go by after the last sample. -/
  rest : Nat
  /-- The ring as the cycle finds it. -/
  ring : Ring

/-- The time of the last question whether the batch is ready. -/
def Round.checked (r : Round) : Nat := r.began + (r.polled.map Prod.fst).sum + r.rest

def Round.samples (r : Round) : List Variable := r.polled.map Prod.snd

namespace Sender

/-- A cycle that asks after each sample, and once more at the end. -/
def visit (s : Sender) (r : Round) : Sender × Ring :=
  let (ready, batch) := s.batch.addAll r.began r.polled
  let s : Sender := {
    batch, counts := { s.counts with samples := s.counts.samples + r.reported } }
  if ready || batch.isReady r.checked then s.flush r.checked r.ring else (s, r.ring)

/-- Asking after each sample comes to the same as asking once at the end. -/
theorem visit_eq_cycle (s : Sender) (r : Round) :
    s.visit r = s.cycle r.checked r.samples r.reported r.ring := by
  have hbatch : (s.batch.addAll r.began r.polled).2 = (s.take r.samples r.reported).batch :=
    Batch.addAll_snd r.polled s.batch r.began
  have hready : ((s.batch.addAll r.began r.polled).1
      || (s.batch.addAll r.began r.polled).2.isReady r.checked)
        = (s.batch.addAll r.began r.polled).2.isReady r.checked := by
    cases hasked : (s.batch.addAll r.began r.polled).1 with
    | false => rfl
    | true => exact (Batch.isReady_of_addAll r.polled (Nat.le_add_right _ _) hasked).symm
  rw [visit, cycle]
  dsimp only
  rw [hready, hbatch]
  simp [take, Round.samples]

/-- Nothing waits after a flush, whatever became of what waited, and the clock is restarted. -/
theorem batch_flush (s : Sender) (now : Nat) (ring : Ring) :
    ∃ builder, (s.flush now ring).1.batch
      = { s.batch with builder, entries := #[], restarted := now } := by
  rw [flush]
  rcases s.batch.flush_cases now with ⟨hnone, hflush⟩ | ⟨-, e, -, hflush⟩ |
    ⟨-, -, frame, builder, bytes, header, hflush, -⟩
  · rw [hflush, ← hnone]
    exact ⟨s.batch.builder, rfl⟩
  · rw [hflush]
    exact ⟨s.batch.builder, rfl⟩
  · rw [hflush]
    exact ⟨builder, rfl⟩

/-- A cycle takes samples in and keeps what waits, which is not ready, or it sends what waits. -/
theorem batch_cycle (s : Sender) (now : Nat) (samples : List Variable) (reported : Nat)
    (ring : Ring) :
    ((s.take samples reported).batch.isReady now = false ∧
      (s.cycle now samples reported ring).1.batch
        = { s.batch with entries := s.batch.entries ++ samples.toArray }) ∨
    ((s.take samples reported).batch.isReady now = true ∧
      ∃ builder, (s.cycle now samples reported ring).1.batch
        = { s.batch with builder, entries := #[], restarted := now }) := by
  have htake : (s.take samples reported).batch
      = { s.batch with entries := s.batch.entries ++ samples.toArray } :=
    Batch.foldl_push_eq samples s.batch
  rw [cycle]
  dsimp only
  cases hready : (s.take samples reported).batch.isReady now with
  | false => exact .inl ⟨rfl, htake⟩
  | true =>
      obtain ⟨builder, hflush⟩ := (s.take samples reported).batch_flush now ring
      rw [htake] at hflush
      exact .inr ⟨rfl, builder, hflush⟩

/-! ## Runs -/

/-- The sender after one cycle. -/
def after (s : Sender) (r : Round) : Sender :=
  (s.cycle r.checked r.samples r.reported r.ring).1

/-- The sender after one cycle after another. -/
def through (s : Sender) (rounds : List Round) : Sender := rounds.foldl after s

theorem through_concat (s : Sender) (rounds : List Round) (r : Round) :
    s.through (rounds ++ [r]) = (s.through rounds).after r := List.foldl_concat ..

theorem config_after (s : Sender) (r : Round) : (s.after r).batch.config = s.batch.config := by
  rcases s.batch_cycle r.checked r.samples r.reported r.ring with ⟨-, h⟩ | ⟨-, builder, h⟩
  · rw [after, h]
  · rw [after, h]

theorem config_through (s : Sender) (rounds : List Round) :
    (s.through rounds).batch.config = s.batch.config := by
  induction rounds using List.reverseRecOn with
  | nil => rfl
  | append_singleton rounds r ih => rw [through_concat, config_after, ih]

/-- What waits after a cycle makes no batch ready. -/
theorem bounded_after (s : Sender) (r : Round) (hmax : 0 < s.batch.config.maxSize.toNat) :
    (s.after r).pending < s.batch.config.maxSize.toNat ∧
      (0 < (s.after r).pending →
        r.checked - (s.after r).batch.restarted < s.batch.config.timeout) := by
  rcases s.batch_cycle r.checked r.samples r.reported r.ring with ⟨hready, h⟩ | ⟨-, builder, h⟩
  · have hkept : (s.after r).batch = (s.take r.samples r.reported).batch :=
      h.trans (Batch.foldl_push_eq r.samples s.batch).symm
    obtain ⟨hsize, htime⟩ := Batch.isReady_eq_false_iff.1 hready
    rw [pending, hkept]
    have hconfig : (s.take r.samples r.reported).batch.config = s.batch.config := by
      rw [← hkept, config_after]
    rw [hconfig] at hsize htime
    exact ⟨hsize, fun _ => htime⟩
  · have hempty : (s.after r).pending = 0 := by rw [pending, after, h]; rfl
    rw [hempty]
    exact ⟨hmax, fun hpos => absurd hpos (Nat.lt_irrefl 0)⟩

/-- The rounds of a run fall into those before the batch was last emptied, with the last of which
its clock was restarted, and those since, whose samples wait. -/
def WaitsSince (s : Sender) (start : Nat) (rounds : List Round) : Prop :=
  ∃ before since, rounds = before ++ since ∧
    s.batch.entries.toList = since.flatMap Round.samples ∧
    s.batch.restarted = before.getLast?.elim start Round.checked

theorem waitsSince_after {s : Sender} {start : Nat} {rounds : List Round}
    (h : s.WaitsSince start rounds) (r : Round) : (s.after r).WaitsSince start (rounds ++ [r]) := by
  obtain ⟨before, since, rfl, hentries, hrestarted⟩ := h
  rcases s.batch_cycle r.checked r.samples r.reported r.ring with ⟨-, h⟩ | ⟨-, builder, h⟩
  · refine ⟨before, since ++ [r], List.append_assoc .., ?_, ?_⟩
    · rw [after, h, Array.toList_append, hentries, List.flatMap_append]
      simp
    · rw [after, h]
      exact hrestarted
  · refine ⟨before ++ since ++ [r], [], (List.append_nil _).symm, ?_, ?_⟩
    · rw [after, h]
      rfl
    · rw [after, h, List.getLast?_concat]
      rfl

theorem waitsSince_through (batch : Batch) (hempty : batch.entries = #[]) (rounds : List Round) :
    ((new batch).through rounds).WaitsSince batch.restarted rounds := by
  induction rounds using List.reverseRecOn with
  | nil => exact ⟨[], [], rfl, congrArg Array.toList hempty, rfl⟩
  | append_singleton rounds r ih =>
      rw [through_concat]
      exact waitsSince_after ih r

/-- **What waits stays bounded.** Whatever a source delivers, whichever builder makes the frames and
whatever the ring is like in each cycle: after a cycle less waits than makes a batch ready, and if
anything waits, then at the last question of the cycle it was not yet time to send it. What waits
was polled since the clock was last restarted. A batch that was found ready is gone, and its clock
restarted, whatever became of its frame. -/
theorem pending_stays_bounded (config : BatchConfig) (builder : Frame.Builder) (start : Nat)
    (hmax : 1 ≤ config.maxSize.toNat) (rounds : List Round) (r : Round) :
    let s := (new (.empty config builder start)).through rounds
    let s' := (s.visit r).1
    s.visit r = s.cycle r.checked r.samples r.reported r.ring ∧
      s'.pending < config.maxSize.toNat ∧
      (0 < s'.pending → r.checked - s'.batch.restarted < config.timeout) ∧
      s'.WaitsSince start (rounds ++ [r]) ∧
      ((s.take r.samples r.reported).batch.isReady r.checked = true →
        s'.pending = 0 ∧ s'.batch.restarted = r.checked) := by
  intro s s'
  have hafter : s' = s.after r := congrArg Prod.fst (s.visit_eq_cycle r)
  have hconfig : s.batch.config = config := config_through _ rounds
  have hbounded := s.bounded_after r (by rw [hconfig]; exact hmax)
  rw [hconfig] at hbounded
  rw [hafter]
  refine ⟨s.visit_eq_cycle r, hbounded.1, hbounded.2, ?_, ?_⟩
  · exact waitsSince_after (waitsSince_through (.empty config builder start) rfl rounds) r
  · intro hready
    rcases s.batch_cycle r.checked r.samples r.reported r.ring with ⟨hnot, -⟩ | ⟨-, builder, h⟩
    · rw [hready] at hnot
      cases hnot
    · rw [pending, after, h]
      exact ⟨rfl, rfl⟩

/-- A frame of three samples is too large for the ring; the two samples of the next cycle wait. -/
theorem samples_wait_after_a_lost_frame :
    let v : Variable := ⟨"a", .uint8, [1], 0⟩
    let ring : Ring := ⟨64, .zeroed 256⟩
    let lost : Round := ⟨0, [(1, v), (1, v), (1, v)], 3, 10, ring⟩
    let r : Round := ⟨20, [(7, v), (7, v)], 2, 3, ring⟩
    let config : BatchConfig := ⟨3, 1⟩
    1 ≤ config.maxSize.toNat ∧
      let s := (new (.empty config (.plain 0) 0)).through [lost]
      let s' := (s.visit r).1
      s'.counts = ⟨5, 0, 0, 0, 1⟩ ∧ s'.pending = 2 ∧
        s'.pending < config.maxSize.toNat ∧
        r.checked - s'.batch.restarted < config.timeout ∧ s'.WaitsSince 0 ([lost] ++ [r]) := by
  -- the senders are not introduced: comparing terms with them as locals would run the cycles
  intro v ring lost r config
  have hmax : 1 ≤ config.maxSize.toNat := by decide
  obtain ⟨-, hsize, htime, hsince, -⟩ :=
    pending_stays_bounded config (.plain 0) 0 hmax [lost] r
  refine ⟨hmax, ?_, ?_, hsize, htime ?_, hsince⟩
  · decide +kernel
  · decide +kernel
  · decide +kernel

end Sender

end Telemetry
