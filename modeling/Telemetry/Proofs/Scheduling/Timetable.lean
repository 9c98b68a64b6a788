import Telemetry.Scheduling.Cycle

/-!
# The periodic loop does not drift

A timetable says when the calls of a loop are due, begin and end: call `i` is due `i + 1` periods
after the start, whatever the calls before it did, and only when calls begin and end depends on how
long they take and how late the loop wakes up (`Timetable.begins`). A running loop keeps to its
timetable (`loopAfter_eq`), so what it records of a call is how far past its due time that call ends
(`loop_keeps_to_the_timetable`). An overrun makes the calls after it late, never due later, and none
of them is left out.
-/

namespace Telemetry.Scheduling

/-- Times below 2^63 nanoseconds, which fit a signed 64-bit word. -/
def horizon : Nat := 0x8000000000000000

/-- What happens in a loop from a start on: how long each call takes, and how late the loop wakes up
after it. -/
structure Timetable where
  pace : Pace
  start : Nat
  work : Nat → Nat
  late : Nat → Nat

namespace Timetable

/-- When a call is due. -/
def deadline (t : Timetable) (i : Nat) : Nat := t.start + (i + 1) * t.pace.period

/-- When a call begins: the first one at once, each other one when the loop wakes up after its
deadline, or right after the call before it where that has overrun the deadline. -/
def begins (t : Timetable) : Nat → Nat
  | 0 => t.start
  | i + 1 => max (t.begins i + t.work i) (t.deadline (i + 1)) + t.late i

/-- When a call ends. -/
def ends (t : Timetable) (i : Nat) : Nat := t.begins i + t.work i

/-- How far past its deadline a call ends; negative for one that ends before. -/
def deviation (t : Timetable) (i : Nat) : Int := t.ends i - t.deadline i

/-- The first `n` cycles, as a loop takes them. -/
def cycles (t : Timetable) (n : Nat) : List (Nat × Nat) :=
  (List.range n).map fun i => (t.work i, t.late i)

/-- The loop after `n` cycles. -/
def loopAfter (t : Timetable) (statistics : Latency.Statistics) (n : Nat) : Loop :=
  (Loop.start t.pace t.start statistics).run t.pace (t.cycles n)

variable (t : Timetable) (statistics : Latency.Statistics)

theorem loopAfter_succ (n : Nat) : t.loopAfter statistics (n + 1)
    = (t.loopAfter statistics n).cycle t.pace (t.work n) (t.late n) := by
  simp [loopAfter, cycles, Loop.run, List.range_succ]

theorem deadline_succ (i : Nat) : t.deadline (i + 1) = t.deadline i + t.pace.period := by
  rw [deadline, deadline, Nat.succ_mul, Nat.add_assoc]

theorem deadline_le_succ (i : Nat) : t.deadline i ≤ t.deadline (i + 1) := by
  rw [deadline_succ]
  exact Nat.le_add_right _ _

/-! ## The clock and the deadline -/

/-- A deadline that the clock can say is not cut short. -/
theorem later_eq {pace : Pace} {time : Nat} (h : time + pace.period < horizon) :
    Loop.later pace time = time + pace.period := by
  rw [horizon] at h
  rw [Loop.later, Nat.min_eq_left]
  exact Nat.le_of_lt_succ (Nat.lt_trans h (by decide))

/-- Before each call, the loop's clock and deadline are the timetable's. -/
theorem loopAfter_eq {i : Nat} (h : t.deadline i < horizon) :
    (t.loopAfter statistics i).now = t.begins i ∧
      (t.loopAfter statistics i).deadline = t.deadline i := by
  induction i with
  | zero =>
      have hfirst : t.deadline 0 = t.start + t.pace.period := by rw [deadline, Nat.one_mul]
      exact ⟨rfl, by rw [hfirst]; exact later_eq (hfirst ▸ h)⟩
  | succ i ih =>
      obtain ⟨hnow, hdeadline⟩ := ih (Nat.lt_of_le_of_lt (t.deadline_le_succ i) h)
      have hlater : Loop.later t.pace (t.loopAfter statistics i).deadline = t.deadline (i + 1) := by
        rw [hdeadline, deadline_succ]
        exact later_eq (t.deadline_succ i ▸ h)
      rw [loopAfter_succ]
      constructor
      · -- the loop sleeps from the end of the call until the next deadline
        show max ((t.loopAfter statistics i).now + t.work i)
          (Loop.later t.pace (t.loopAfter statistics i).deadline) + t.late i = _
        rw [hlater, hnow, begins]
      · exact hlater

/-! ## The deviations -/

/-- What the statistics take in of a deviation: the deviation, and a miss where it is too large. -/
def tally (pace : Pace) (s : Latency.Statistics) (deviation : Int64) : Latency.Statistics :=
  if Int64.ofNat pace.maxDeviation < deviation then (s.record deviation).recordMiss
  else s.record deviation

@[simp] theorem count_tally (pace : Pace) (s : Latency.Statistics) (deviation : Int64) :
    (tally pace s deviation).count = s.count + 1 := by
  unfold tally
  split <;> rfl

theorem count_foldl_tally (pace : Pace) (deviations : List Int64) :
    ∀ s : Latency.Statistics,
      (deviations.foldl (tally pace) s).count = s.count + deviations.length := by
  induction deviations with
  | nil => intro s; rfl
  | cons d deviations ih =>
      intro s
      rw [List.foldl_cons, ih, count_tally, List.length_cons, Nat.add_assoc,
        Nat.add_comm 1 deviations.length]

theorem statistics_cycle (pace : Pace) (l : Loop) (work late : Nat) :
    (l.cycle pace work late).statistics = tally pace l.statistics (l.elapse work).deviation := rfl

/-- The loop measures a call against the timetable. -/
theorem deviation_elapse {i : Nat} (h : t.deadline i < horizon) :
    ((t.loopAfter statistics i).elapse (t.work i)).deviation = Int64.ofInt (t.deviation i) := by
  obtain ⟨hnow, hdeadline⟩ := t.loopAfter_eq statistics h
  rw [Loop.deviation, Loop.elapse, hnow, hdeadline, deviation, ends, Int64.ofInt_sub]
  rfl

/-- The distance of two times below the horizon fits a signed word. -/
theorem toInt_deviation {i : Nat} (hends : t.ends i < horizon)
    (hdeadline : t.deadline i < horizon) :
    (Int64.ofInt (t.deviation i)).toInt = t.deviation i := by
  rw [horizon] at hends hdeadline
  apply Int64.toInt_ofInt_of_le
  · rw [deviation]
    omega
  · rw [deviation]
    omega

/-- The statistics take in the deviations of the timetable, in order, and nothing else. -/
theorem statistics_loopAfter {n : Nat} (h : ∀ i < n, t.deadline i < horizon) :
    (t.loopAfter statistics n).statistics
      = ((List.range n).map fun i => Int64.ofInt (t.deviation i)).foldl (tally t.pace)
        statistics := by
  induction n with
  | zero => rfl
  | succ n ih =>
      rw [loopAfter_succ, statistics_cycle,
        t.deviation_elapse statistics (h n (Nat.lt_succ_self n)),
        ih fun i hi => h i (Nat.lt_succ_of_lt hi), List.range_succ, List.map_append,
        List.foldl_append]
      rfl

/-- **The loop does not drift.** As long as no call is due or ends past the horizon: when call `i`
ends, the clock and the deadline it is measured against are those of the timetable, so the deviation
is exactly the timetable's. These deviations are what the statistics of `n` cycles are made of, one
for each call. -/
theorem loop_keeps_to_the_timetable (n : Nat)
    (h : ∀ i < n, t.ends i < horizon ∧ t.deadline i < horizon) :
    (∀ i < n,
      let call := (t.loopAfter statistics i).elapse (t.work i)
      call.now = t.ends i ∧ call.deadline = t.start + (i + 1) * t.pace.period ∧
        call.deviation.toInt = t.ends i - (t.start + (i + 1) * t.pace.period)) ∧
    (t.loopAfter statistics n).statistics
      = ((List.range n).map fun i => Int64.ofInt (t.deviation i)).foldl (tally t.pace) statistics ∧
    (t.loopAfter statistics n).statistics.count = statistics.count + n := by
  have hrecorded := t.statistics_loopAfter statistics fun i hi => (h i hi).2
  refine ⟨?_, hrecorded, ?_⟩
  · intro i hi call
    obtain ⟨hends, hdue⟩ := h i hi
    obtain ⟨hnow, hdeadline⟩ := t.loopAfter_eq statistics hdue
    refine ⟨?_, hdeadline, ?_⟩
    · show (t.loopAfter statistics i).now + t.work i = t.ends i
      rw [hnow, ends]
    · rw [t.deviation_elapse statistics hdue, t.toInt_deviation hends hdue, deviation, deadline]
      simp
  · rw [hrecorded, count_foldl_tally, List.length_map, List.length_range]

/-- The second of five calls takes two and a half periods. The next two begin late, each against a
deadline of its own, and the fifth begins on time again. -/
theorem overrun_is_caught_up :
    let t : Timetable := ⟨⟨1000, 100⟩, 0, fun i => if i = 1 then 2500 else 200, fun _ => 30⟩
    (∀ i < 5, t.ends i < horizon ∧ t.deadline i < horizon) ∧
      (t.loopAfter .empty 5).statistics
        = ([-800, 2530, 1760, 990, 230].map Int64.ofInt).foldl (tally t.pace) .empty ∧
      (t.loopAfter .empty 5).statistics.count = 5 := by
  intro t
  have h : ∀ i < 5, t.ends i < horizon ∧ t.deadline i < horizon := by decide
  obtain ⟨-, hrecorded, hcount⟩ := t.loop_keeps_to_the_timetable .empty 5 h
  have hdeviations : (List.range 5).map t.deviation = [-800, 2530, 1760, 990, 230] := by decide
  refine ⟨h, ?_, hcount⟩
  rw [hrecorded, ← hdeviations, List.map_map]
  rfl

end Timetable

end Telemetry.Scheduling
