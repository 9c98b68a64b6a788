import Mathlib.Algebra.Order.Ring.Nat
import Telemetry.Proofs.Batch.History

/-!
# When a batch is ready

A batch is ready by its size or by its clock, and the two are set back by different events: what
waits goes when the batch is emptied (`Event.empties`), the clock starts again when the batch is
emptied and also when a flush finds nothing waiting (`Event.restarts`). So there are two tails of a
history to look at: the samples since the first, and the time since the second. Together they decide
whether the batch is due (`Due`), and at every moment of a run it is ready exactly when it is due
(`readiness_follows_history`).
-/

namespace Telemetry

namespace Batch

theorem isReady_eq_true_iff {b : Batch} {now : Nat} : b.isReady now = true ↔
    b.config.maxSize.toNat ≤ b.size ∨ b.config.timeout ≤ now - b.restarted := by
  simp [isReady]

theorem isReady_eq_false_iff {b : Batch} {now : Nat} : b.isReady now = false ↔
    b.size < b.config.maxSize.toNat ∧ now - b.restarted < b.config.timeout := by
  simp [isReady]

/-- Whether an action replies whether the batch should be sent. -/
def Action.tells : Action → Bool
  | .add _ _ | .addTyped _ _ _ | .addAt _ | .ask => true
  | .serialize | .flush | .clear | .wait _ => false

/-- A flush that finds nothing waiting does not fail, and restarts the clock. -/
theorem Clocked.act_flush_of_isEmpty {s : Clocked} (hempty : s.batch.isEmpty = true) :
    s.act .flush =
      (.frame (.ok none), { s with batch := { s.batch with restarted := s.now } }) := by
  rw [act, flush, if_pos hempty]

/-! ## What an event does to the clock -/

namespace Event

/-- Whether the clock of the batch was restarted: the batch was cleared, flushed into a frame, or
flushed while nothing waited. -/
def restarts (e : Event) : Bool :=
  match e.action with
  | .clear => true
  | .flush => e.sent?.isSome || e.before.batch.isEmpty
  | _ => false

/-- The nanoseconds that went by. -/
def nanos (e : Event) : Nat :=
  match e.action with
  | .wait nanos => nanos
  | _ => 0

/-- What an event changes, apart from what waits and from the builder: the time goes on, and the
clock counts from the time of an event that restarts it. -/
theorem after_eq (e : Event) : e.after =
    { now := e.before.now + e.nanos
      batch := { e.after.batch with
        config := e.before.batch.config
        restarted := if e.restarts then e.before.now else e.before.batch.restarted } } := by
  obtain ⟨s, action⟩ := e
  cases action with
  | serialize =>
      rcases s.act_serialize with ⟨e, -, h⟩ | ⟨-, frame, builder, bytes, header, h, -⟩
      · simp [after, h, nanos, restarts]
      · simp [after, h, nanos, restarts]
  | flush =>
      cases hempty : s.batch.isEmpty with
      | true => simp [after, s.act_flush_of_isEmpty hempty, nanos, restarts, hempty]
      | false =>
          rcases s.act_flush with ⟨hnone, -⟩ | ⟨-, e, -, h⟩ |
            ⟨-, -, frame, builder, bytes, header, h, -⟩
          · simp [isEmpty, hnone] at hempty
          · simp [after, h, nanos, restarts, hempty, sent?, frame?, reply]
          · simp [after, h, nanos, restarts, hempty, sent?, frame?, reply]
  | _ => rfl

theorem now_after (e : Event) : e.after.now = e.before.now + e.nanos :=
  congrArg Clocked.now e.after_eq

theorem config_after (e : Event) : e.after.batch.config = e.before.batch.config :=
  congrArg (fun s => s.batch.config) e.after_eq

theorem restarted_after (e : Event) : e.after.batch.restarted =
    if e.restarts then e.before.now else e.before.batch.restarted :=
  congrArg (fun s => s.batch.restarted) e.after_eq

theorem nanos_of_restarts {e : Event} (hrestarts : e.restarts = true) : e.nanos = 0 := by
  obtain ⟨s, action⟩ := e
  cases action with
  | wait nanos => cases hrestarts
  | _ => rfl

/-- Where no frame could be made nothing is restarted. -/
theorem restarts_of_failed {e : Event} {error : Frame.FrameError}
    (hfailed : e.reply = .frame (.error error)) : e.restarts = false := by
  obtain ⟨s, action⟩ := e
  cases action with
  | flush =>
      have hsome : s.batch.isEmpty = false := by
        cases hempty : s.batch.isEmpty with
        | true => simp [reply, s.act_flush_of_isEmpty hempty] at hfailed
        | false => rfl
      simp [restarts, sent?, frame?, hfailed, hsome]
  | clear => cases hfailed
  | _ => rfl

theorem empties_of_failed {e : Event} {error : Frame.FrameError}
    (hfailed : e.reply = .frame (.error error)) : e.empties = false := by
  obtain ⟨s, action⟩ := e
  cases action with
  | flush => simp [empties, sent?, frame?, hfailed]
  | clear => cases hfailed
  | _ => rfl

/-- A reply is about the batch as the action leaves it, at the time at which it does. -/
theorem reply_eq_ready_iff {e : Event} {ready : Bool} : e.reply = .ready ready ↔
    e.action.tells = true ∧ ready = e.after.batch.isReady e.after.now := by
  obtain ⟨s, action⟩ := e
  cases action with
  | add name value =>
      simp [reply, after, Clocked.act, Clocked.grow, add, addTyped, addAt, Action.tells, eq_comm]
  | addTyped name dataType value =>
      simp [reply, after, Clocked.act, Clocked.grow, addTyped, addAt, Action.tells, eq_comm]
  | addAt v => simp [reply, after, Clocked.act, Clocked.grow, addAt, Action.tells, eq_comm]
  | ask => simp [reply, after, Clocked.act, Action.tells, eq_comm]
  | serialize =>
      rcases s.act_serialize with ⟨e, -, h⟩ | ⟨-, frame, builder, bytes, header, h, -⟩
      · simp [reply, h, Action.tells]
      · simp [reply, h, Action.tells]
  | flush =>
      rcases s.act_flush with ⟨-, h⟩ | ⟨-, e, -, h⟩ | ⟨-, -, frame, builder, bytes, header, h, -⟩
      · simp [reply, h, Action.tells]
      · simp [reply, h, Action.tells]
      · simp [reply, h, Action.tells]
  | clear => simp [reply, Clocked.act, Action.tells]
  | wait nanos => simp [reply, Clocked.act, Action.tells]

end Event

/-! ## What a run does to the clock -/

/-- Whether a batch with such a history should be sent: enough samples were added since it was last
emptied, or enough time went by since its clock was last restarted. -/
def Due (config : BatchConfig) (events : List Event) : Prop :=
  config.maxSize.toNat ≤
      ((events.rtakeWhile fun e => !e.empties).flatMap Event.samples).length ∨
    config.timeoutMicros.toNat * 1000 ≤
      ((events.rtakeWhile fun e => !e.restarts).map Event.nanos).sum

namespace Clocked

theorem config_run (s : Clocked) (actions : List Action) :
    (s.run actions).batch.config = s.batch.config := by
  induction actions using List.reverseRecOn with
  | nil => rfl
  | append_singleton actions a ih =>
      rw [run_concat, ← ih]
      exact Event.config_after ⟨s.run actions, a⟩

/-- The time since the clock was restarted is the time that went by since the last event that
restarted it. -/
theorem now_run (s : Clocked) (hs : s.now = s.batch.restarted) (actions : List Action) :
    (s.run actions).now = (s.run actions).batch.restarted
      + (((s.history actions).rtakeWhile fun e => !e.restarts).map Event.nanos).sum := by
  -- from the end of the run: whether the last event restarts the clock decides what is left of it
  induction actions using List.reverseRecOn with
  | nil => exact hs
  | append_singleton actions a ih =>
      have hnow := Event.now_after ⟨s.run actions, a⟩
      have hrestarted := Event.restarted_after ⟨s.run actions, a⟩
      rw [Event.after] at hnow hrestarted
      rw [run_concat, history_concat, List.rtakeWhile_concat, hnow, hrestarted]
      by_cases hrestarts : Event.restarts ⟨s.run actions, a⟩ = true
      · simp [hrestarts, Event.nanos_of_restarts hrestarts]
      · simp [hrestarts, ih, Nat.add_assoc]

/-- A batch is ready exactly when its history makes it due. -/
theorem isReady_run_iff (s : Clocked) (hempty : s.batch.entries = #[])
    (hnow : s.now = s.batch.restarted) (actions : List Action) :
    (s.run actions).batch.isReady (s.run actions).now = true ↔
      Due s.batch.config (s.history actions) := by
  have hsize : (s.run actions).batch.size
      = (((s.history actions).rtakeWhile fun e => !e.empties).flatMap Event.samples).length := by
    rw [← entries_run s hempty, Array.length_toList, size]
  have htime : (s.run actions).now - (s.run actions).batch.restarted
      = (((s.history actions).rtakeWhile fun e => !e.restarts).map Event.nanos).sum := by
    rw [now_run s hnow, Nat.add_sub_cancel_left]
  rw [isReady_eq_true_iff, hsize, htime, config_run, Due, BatchConfig.timeout]

end Clocked

/-! ## Readiness -/

/-- **Readiness follows from the history.** At every moment of a run the batch is ready exactly when
`maxSize` samples were added since it was last emptied, or `timeoutMicros` went by since its clock
was last restarted. Every addition replies that, of the history that it is itself part of, and so
does every question; no other action replies anything of the kind. Serializing and a flush that
fails neither restart the clock nor empty the batch. -/
theorem readiness_follows_history (config : BatchConfig) (builder : Frame.Builder) (start : Nat)
    (actions : List Action) :
    let first := Clocked.new config builder start
    let s := first.run actions
    (s.batch.isReady s.now = true ↔ Due config (first.history actions)) ∧
    (∀ a ready, (s.act a).1 = .ready ready ↔
      a.tells = true ∧ (ready = true ↔ Due config (first.history actions ++ [⟨s, a⟩]))) ∧
    (∀ a, (a = .serialize ∨ ∃ error, (s.act a).1 = .frame (.error error)) →
      Event.restarts ⟨s, a⟩ = false ∧ Event.empties ⟨s, a⟩ = false) := by
  intro first s
  have hready := first.isReady_run_iff rfl rfl
  refine ⟨hready actions, ?_, ?_⟩
  · intro a ready
    have hafter := hready (actions ++ [a])
    rw [Clocked.run_concat, Clocked.history_concat] at hafter
    refine (Event.reply_eq_ready_iff (e := ⟨s, a⟩)).trans (and_congr_right ?_)
    intro _
    exact (Bool.eq_iff_iff).trans (iff_congr Iff.rfl hafter)
  · rintro a (rfl | ⟨error, hfailed⟩)
    · exact ⟨rfl, rfl⟩
    · exact ⟨Event.restarts_of_failed hfailed, Event.empties_of_failed hfailed⟩

/-- A flush that finds nothing waiting restarts the clock: 1399 nanoseconds after the batch was sent
and 999 after that flush a microsecond has not passed, and one nanosecond later it has. -/
theorem due_at_the_microsecond :
    let early : List Action :=
      [.addAt ⟨"a", .uint8, [1], 0⟩, .flush, .wait 400, .flush, .wait 999]
    let first := Clocked.new ⟨3, 1⟩ (.plain 0) 0
    ¬ Due ⟨3, 1⟩ (first.history early) ∧ Due ⟨3, 1⟩ (first.history (early ++ [.wait 1])) ∧
      Event.restarts ⟨first.run early, .serialize⟩ = false ∧
      Event.empties ⟨first.run early, .serialize⟩ = false := by
  intro early first
  obtain ⟨hearly, -, hkeeps⟩ := readiness_follows_history ⟨3, 1⟩ (.plain 0) 0 early
  obtain ⟨hlate, -, -⟩ := readiness_follows_history ⟨3, 1⟩ (.plain 0) 0 (early ++ [.wait 1])
  refine ⟨?_, hlate.1 (by decide +kernel), hkeeps .serialize (.inl rfl)⟩
  intro hdue
  exact absurd (hearly.2 hdue) (by decide +kernel)

end Batch

end Telemetry
