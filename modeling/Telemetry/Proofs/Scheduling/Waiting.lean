import Mathlib.Logic.Function.Iterate
import Telemetry.Scheduling.Waiting

/-!
# Waiting in time

The loop of the portable wait has no counter. A pass of it reads the clock, and where that is too
early it sleeps, or it leaves it to the next pass to read again (`Waiting.pass`). Either way the
clock has come closer to the deadline (`remaining_pass_lt`), so the loop ends on every clock that
moves with its readings (`exists_endsAfter`). Between two passes the clock is short of the deadline,
and once there was a sleep it is short of it by no more than the threshold, so that there is no
other sleep (`onTime_pass`). From both together `wait_ends_on_time` follows.
-/

namespace Telemetry.Scheduling

/-- A wait that goes on: the clock between two passes of the loop, and when each sleep ended. -/
structure Waiting where
  clock : TickingClock
  wakeUps : List Nat
  deriving DecidableEq, Repr

namespace Waiting

/-! ## One pass -/

/-- Whether the next reading is before the deadline. -/
def Early (deadline : Nat) (w : Waiting) : Prop := w.clock.now + w.clock.tick < deadline

/-- Whether the next reading leaves more than the threshold, so that there is a sleep. -/
def Far (deadline : Nat) (w : Waiting) : Prop :=
  spinThreshold < deadline - (w.clock.now + w.clock.tick)

instance (deadline : Nat) (w : Waiting) : Decidable (w.Far deadline) := Nat.decLt _ _

/-- A pass with a reading that is early: there is a sleep after it if the deadline is far. -/
def pass (deadline : Nat) (w : Waiting) : Waiting :=
  let reading := w.clock.read
  if w.Far deadline then
    let woken := reading.sleepFor (deadline - reading.now - spinThreshold)
    ⟨woken, woken.now :: w.wakeUps⟩
  else ⟨reading, w.wakeUps⟩

/-- What a pass with a reading that is not early makes of a wait. -/
def ended (w : Waiting) : Waited := ⟨w.clock.read, w.wakeUps⟩

/-- A sleep ends where the threshold begins. -/
theorem now_pass_of_far {deadline : Nat} {w : Waiting} (hfar : w.Far deadline) :
    (w.pass deadline).clock.now = deadline - spinThreshold := by
  simp only [pass, if_pos hfar, TickingClock.read, TickingClock.sleepFor]
  rw [Far] at hfar
  omega

theorem wakeUps_pass_of_far {deadline : Nat} {w : Waiting} (hfar : w.Far deadline) :
    (w.pass deadline).wakeUps = (w.pass deadline).clock.now :: w.wakeUps := by
  simp only [pass, if_pos hfar]

theorem now_pass_of_not_far {deadline : Nat} {w : Waiting} (hfar : ¬ w.Far deadline) :
    (w.pass deadline).clock.now = w.clock.now + w.clock.tick := by
  simp only [pass, if_neg hfar, TickingClock.read]

theorem wakeUps_pass_of_not_far {deadline : Nat} {w : Waiting} (hfar : ¬ w.Far deadline) :
    (w.pass deadline).wakeUps = w.wakeUps := by
  simp only [pass, if_neg hfar]

theorem tick_pass (deadline : Nat) (w : Waiting) :
    (w.pass deadline).clock.tick = w.clock.tick := by
  by_cases hfar : w.Far deadline
  · simp only [pass, if_pos hfar, TickingClock.read, TickingClock.sleepFor]
  · simp only [pass, if_neg hfar, TickingClock.read]

/-- A pass comes closer to the deadline, by its sleep or at least by its reading. -/
theorem remaining_pass_lt {deadline : Nat} {w : Waiting} (htick : 0 < w.clock.tick)
    (hearly : w.Early deadline) :
    deadline - (w.pass deadline).clock.now < deadline - w.clock.now := by
  rw [Early] at hearly
  by_cases hfar : w.Far deadline
  · rw [now_pass_of_far hfar]
    rw [Far] at hfar
    omega
  · rw [now_pass_of_not_far hfar]
    omega

theorem sleepThenSpin_of_early {deadline : Nat} {w : Waiting} (htick : 0 < w.clock.tick)
    (hearly : w.Early deadline) : sleepThenSpin deadline w.clock w.wakeUps =
      sleepThenSpin deadline (w.pass deadline).clock (w.pass deadline).wakeUps := by
  have hnot : ¬ deadline ≤ w.clock.read.now := Nat.not_le.2 hearly
  rw [sleepThenSpin, pass]
  by_cases hfar : w.Far deadline
  · have hsleep : spinThreshold < deadline - w.clock.read.now := hfar
    simp only [hnot, hfar, hsleep, if_true, if_false]
  · have hspin : ¬ spinThreshold < deadline - w.clock.read.now := hfar
    simp only [hnot, hfar, hspin, Nat.ne_of_gt htick, if_false]

theorem sleepThenSpin_of_not_early {deadline : Nat} {w : Waiting} (hpast : ¬ w.Early deadline) :
    sleepThenSpin deadline w.clock w.wakeUps = some w.ended := by
  rw [sleepThenSpin]
  exact if_pos (Nat.not_lt.1 hpast)

/-! ## The loop -/

/-- The loop goes on for `n` passes, and the next one ends it. -/
def EndsAfter (deadline n : Nat) (w : Waiting) : Prop :=
  (∀ i < n, ((pass deadline)^[i] w).Early deadline) ∧ ¬ ((pass deadline)^[n] w).Early deadline

/-- On a clock that its readings move the loop ends, and its last pass makes the wait what it is. -/
theorem exists_endsAfter (deadline : Nat) (w : Waiting) (htick : 0 < w.clock.tick) :
    ∃ n, w.EndsAfter deadline n ∧
      sleepThenSpin deadline w.clock w.wakeUps = some ((pass deadline)^[n] w).ended := by
  induction hremaining : deadline - w.clock.now using Nat.strongRecOn generalizing w with
  | ind remaining ih =>
    by_cases hearly : w.Early deadline
    · have hlt := remaining_pass_lt htick hearly
      rw [hremaining] at hlt
      have htick_pass : 0 < (w.pass deadline).clock.tick := by rw [tick_pass]; exact htick
      obtain ⟨n, ⟨hgoes, hends⟩, hwaited⟩ := ih _ hlt (w.pass deadline) htick_pass rfl
      refine ⟨n + 1, ⟨?_, hends⟩, (sleepThenSpin_of_early htick hearly).trans hwaited⟩
      intro i hi
      cases i with
      | zero => exact hearly
      | succ i => exact hgoes i (Nat.lt_of_succ_lt_succ hi)
    · refine ⟨0, ⟨?_, hearly⟩, sleepThenSpin_of_not_early hearly⟩
      intro i hi
      exact absurd hi (Nat.not_lt_zero i)

/-! ## What passes keep -/

/-- Between two passes: the deadline is still ahead, and if there was a sleep, it was one, it ended
at the threshold before the deadline, and the clock has not gone back since. -/
structure OnTime (deadline : Nat) (w : Waiting) : Prop where
  ahead : w.clock.now < deadline
  once : w.wakeUps = [] ∨
    ∃ t, w.wakeUps = [t] ∧ t + spinThreshold = deadline ∧ t ≤ w.clock.now

theorem OnTime.length_le {deadline : Nat} {w : Waiting} (h : w.OnTime deadline) :
    w.wakeUps.length ≤ 1 := by
  rcases h.once with hnone | ⟨t, hone, -⟩
  · simp [hnone]
  · simp [hone]

theorem OnTime.wakeUp_le {deadline : Nat} {w : Waiting} (h : w.OnTime deadline) :
    ∀ t ∈ w.wakeUps, t + 100000 ≤ deadline := by
  have hthreshold : spinThreshold = 100000 := rfl
  rcases h.once with hnone | ⟨t, hone, ht, -⟩
  · simp [hnone]
  · simp [hone]
    omega

theorem onTime_pass {deadline : Nat} {w : Waiting} (h : w.OnTime deadline)
    (hearly : w.Early deadline) : (w.pass deadline).OnTime deadline := by
  by_cases hfar : w.Far deadline
  · have hnow := now_pass_of_far hfar
    rw [Far] at hfar
    rcases h.once with hnone | ⟨t, -, ht, hle⟩
    · refine ⟨?_, .inr ⟨(w.pass deadline).clock.now, ?_, ?_, Nat.le_refl _⟩⟩
      · have hthreshold : 0 < spinThreshold := by decide
        omega
      · rw [wakeUps_pass_of_far hfar, hnone]
      · omega
    · -- after a sleep the deadline is not far any more
      omega
  · have hnow := now_pass_of_not_far hfar
    have hwakeUps := wakeUps_pass_of_not_far hfar
    refine ⟨by rw [hnow]; exact hearly, ?_⟩
    rw [hwakeUps, hnow]
    rcases h.once with hnone | ⟨t, hone, ht, hle⟩
    · exact .inl hnone
    · exact .inr ⟨t, hone, ht, Nat.le_add_right_of_le hle⟩

theorem onTime_iterate {deadline n : Nat} {w : Waiting} (h : w.OnTime deadline)
    (hearly : ∀ i < n, ((pass deadline)^[i] w).Early deadline) :
    ((pass deadline)^[n] w).OnTime deadline := by
  induction n with
  | zero => exact h
  | succ n ih =>
    have hbefore := ih fun i hi => hearly i (Nat.lt_succ_of_lt hi)
    rw [Function.iterate_succ_apply']
    exact onTime_pass hbefore (hearly n (Nat.lt_succ_self n))

theorem tick_iterate (deadline n : Nat) (w : Waiting) :
    ((pass deadline)^[n] w).clock.tick = w.clock.tick := by
  induction n with
  | zero => rfl
  | succ n ih => rw [Function.iterate_succ_apply', tick_pass, ih]

/-! ## The wait -/

/-- **A wait ends in time.** On every clock that moves with its readings the loop ends, and its last
reading is not before the deadline; if the clock was before the deadline at first, that reading is
less than a tick past it. There was one sleep at most, which ended 100 microseconds before the
deadline or earlier, and none if the deadline had passed already. -/
theorem wait_ends_on_time (deadline : Nat) (clock : TickingClock) (htick : 1 ≤ clock.tick) :
    ∃ n w, EndsAfter deadline n ⟨clock, []⟩ ∧ w = ((pass deadline)^[n] ⟨clock, []⟩).ended ∧
      sleepThenSpin deadline clock [] = some w ∧
      deadline ≤ w.clock.now ∧
      (clock.now < deadline → w.clock.now < deadline + clock.tick) ∧
      w.wakeUps.length ≤ 1 ∧ (∀ t ∈ w.wakeUps, t + 100000 ≤ deadline) ∧
      (deadline ≤ clock.now → w.wakeUps = []) := by
  obtain ⟨n, hends, hwaited⟩ := exists_endsAfter deadline ⟨clock, []⟩ htick
  refine ⟨n, _, hends, rfl, hwaited, Nat.not_lt.1 hends.2, ?_⟩
  by_cases hahead : clock.now < deadline
  · have hlast := onTime_iterate (w := ⟨clock, []⟩) ⟨hahead, .inl rfl⟩ hends.1
    refine ⟨?_, hlast.length_le, hlast.wakeUp_le, fun hpast => absurd hahead (Nat.not_lt.2 hpast)⟩
    intro _
    rw [ended, TickingClock.read, tick_iterate]
    exact Nat.add_lt_add_right hlast.ahead clock.tick
  · -- the first reading ends the loop
    obtain rfl : n = 0 := by
      by_contra hn
      have hearly : clock.now + clock.tick < deadline := hends.1 0 (Nat.pos_of_ne_zero hn)
      omega
    exact ⟨fun h => absurd h hahead, Nat.zero_le 1, by simp [ended], fun _ => rfl⟩

/-- Ticks of 60 microseconds: the wait sleeps once, and its last reading is 20 microseconds late. -/
theorem late_reading_is_within_a_tick :
    1 ≤ (⟨0, 60000⟩ : TickingClock).tick ∧
      ∃ w, sleepThenSpin 250000 ⟨0, 60000⟩ [] = some w ∧ w = ⟨⟨270000, 60000⟩, [150000]⟩ ∧
        250000 ≤ w.clock.now ∧ w.clock.now < 250000 + 60000 ∧ w.wakeUps.length ≤ 1 ∧
        ∀ t ∈ w.wakeUps, t + 100000 ≤ 250000 := by
  have htick : 1 ≤ (⟨0, 60000⟩ : TickingClock).tick := by decide
  obtain ⟨n, w, -, -, hwaited, hreached, hwithin, honce, hearly, -⟩ :=
    wait_ends_on_time 250000 ⟨0, 60000⟩ htick
  have hruns : sleepThenSpin 250000 ⟨0, 60000⟩ [] = some ⟨⟨270000, 60000⟩, [150000]⟩ := by
    simp [sleepThenSpin, TickingClock.read, TickingClock.sleepFor, spinThreshold]
  refine ⟨htick, w, hwaited, ?_, hreached, hwithin (by decide), honce, hearly⟩
  exact Option.some.inj (hwaited.symm.trans hruns)

end Waiting

end Telemetry.Scheduling
