import Mathlib.Data.List.Induction
import Telemetry.Proofs.Scheduling.Timetable

/-!
# Missed deadlines

The deadline of a call is missed when the call ends further past it than the configuration allows.
The limit is an unsigned word of nanoseconds, and the loop compares it with a signed deviation, as a
signed word (`RealtimeConfig.signedLimit`): a limit of 2^63 or more has turned negative there. What
a run takes into its statistics is known exactly, whatever the times (`Loop.statistics_run`,
`foldl_tally`), and the misses it counts are those of the limit if and only if the limit is below
2^63 or no deviation exceeds the negative number it has turned into
(`misses_follow_the_limit_iff`). A call that ends on time under the largest limit is a miss
(`punctual_call_is_missed`).
-/

namespace Telemetry.Scheduling

/-! ## What a run records -/

/-- The deviations that a run measures, one for each call. -/
def Loop.deviations (pace : Pace) : Loop → List (Nat × Nat) → List Int64
  | _, [] => []
  | l, (work, late) :: rest =>
    (l.elapse work).deviation :: (l.cycle pace work late).deviations pace rest

/-- The statistics of a run take in what it measures, in order, and nothing else. -/
theorem Loop.statistics_run (pace : Pace) (cycles : List (Nat × Nat)) (l : Loop) :
    (l.run pace cycles).statistics
      = (l.deviations pace cycles).foldl (Timetable.tally pace) l.statistics := by
  induction cycles generalizing l with
  | nil => rfl
  | cons c cycles ih =>
    obtain ⟨work, late⟩ := c
    calc ((l.cycle pace work late).run pace cycles).statistics
        = ((l.cycle pace work late).deviations pace cycles).foldl (Timetable.tally pace)
            (l.cycle pace work late).statistics := ih _
      _ = _ := by rw [Timetable.statistics_cycle]; rfl

/-- Deviations are recorded all alike; the misses are those above the limit. -/
theorem foldl_tally (pace : Pace) (s : Latency.Statistics) (deviations : List Int64) :
    deviations.foldl (Timetable.tally pace) s
      = { deviations.foldl Latency.Statistics.record s with
          misses := s.misses + deviations.countP (Int64.ofNat pace.maxDeviation < ·) } := by
  induction deviations using List.reverseRecOn with
  | nil => rfl
  | append_singleton deviations d ih =>
    rw [List.foldl_append, ih, List.foldl_append, List.countP_append]
    by_cases h : Int64.ofNat pace.maxDeviation < d
    · simp [Timetable.tally, h, Latency.Statistics.recordMiss, Latency.Statistics.record,
        Nat.add_assoc]
    · simp [Timetable.tally, h, Latency.Statistics.record]

theorem summary_misses (s : Latency.Statistics) : s.summary.misses = s.misses := by
  unfold Latency.Statistics.summary
  split <;> rfl

/-! ## The limit -/

namespace RealtimeConfig

/-- The largest deviation that is no miss, as the loop compares it. -/
def signedLimit (c : RealtimeConfig) : Int64 := Int64.ofNat c.maxDeviation

theorem maxDeviation_lt (c : RealtimeConfig) : c.maxDeviation < UInt64.size := by
  have h : 0 < UInt64.size := by decide
  unfold maxDeviation scaled
  omega

/-- A limit below 2^63 is compared as it is; any other one has lost 2^64. -/
theorem toInt_signedLimit (c : RealtimeConfig) :
    c.signedLimit.toInt = if c.maxDeviation < horizon then (c.maxDeviation : Int)
      else c.maxDeviation - UInt64.size := by
  have hlt := c.maxDeviation_lt
  rw [signedLimit, Int64.toInt_ofNat', Int.bmod]
  simp only [horizon, UInt64.size, Int64.size] at *
  omega

/-- No deviation is above a limit that does not fit a signed word. -/
theorem not_maxDeviation_lt {c : RealtimeConfig} (h : ¬ c.maxDeviation < horizon) (d : Int64) :
    ¬ (c.maxDeviation : Int) < d.toInt := by
  have hd := d.toInt_lt
  simp only [horizon] at h
  omega

/-- The deviations above the limit are those above the limit that is compared, or there are none of
the latter, whichever the limit makes true. -/
theorem countP_signedLimit_iff (c : RealtimeConfig) (deviations : List Int64) :
    deviations.countP (c.signedLimit < ·)
        = deviations.countP (fun d => (c.maxDeviation : Int) < d.toInt) ↔
      c.maxDeviation < horizon ∨ ∀ d ∈ deviations, d.toInt ≤ c.maxDeviation - UInt64.size := by
  have hlimit := c.toInt_signedLimit
  by_cases h : c.maxDeviation < horizon
  · rw [if_pos h] at hlimit
    simp [h, Int64.lt_iff_toInt_lt, hlimit]
  · rw [if_neg h] at hlimit
    have hnone : deviations.countP (fun d => (c.maxDeviation : Int) < d.toInt) = 0 := by
      simp [not_maxDeviation_lt h]
    simp [h, hnone, List.countP_eq_zero, Int64.lt_iff_toInt_lt, hlimit]

end RealtimeConfig

/-- **What counts as a miss.** From any start on, a run of the loop records the deviations it
measures, and what it adds to the misses is the number of deviations above the limit as a signed
word. That is the number of deviations above the limit itself if and only if the limit is below 2^63
or no deviation exceeds what is left of it when 2^64 is taken away. -/
theorem misses_follow_the_limit_iff (c : RealtimeConfig) (start : Nat)
    (statistics : Latency.Statistics) (cycles : List (Nat × Nat)) :
    let loop := Loop.start c.pace start statistics
    let recorded := loop.deviations c.pace cycles
    let after := (loop.run c.pace cycles).statistics
    after = { recorded.foldl Latency.Statistics.record statistics with
        misses := statistics.misses + recorded.countP (c.signedLimit < ·) } ∧
      (after.summary.misses
          = statistics.misses + recorded.countP (fun d => (c.maxDeviation : Int) < d.toInt) ↔
        c.maxDeviation < horizon ∨
          ∀ d ∈ recorded, d.toInt ≤ c.maxDeviation - UInt64.size) := by
  intro loop recorded after
  have hafter : after = { recorded.foldl Latency.Statistics.record statistics with
      misses := statistics.misses + recorded.countP (c.signedLimit < ·) } := by
    calc after = recorded.foldl (Timetable.tally c.pace) statistics :=
          loop.statistics_run c.pace cycles
      _ = _ := foldl_tally c.pace statistics recorded
  refine ⟨hafter, ?_⟩
  rw [summary_misses, hafter, Nat.add_left_cancel_iff]
  exact c.countP_signedLimit_iff recorded

/-- The largest limit there is makes a miss of a call that ends at its deadline. -/
theorem punctual_call_is_missed :
    let c : RealtimeConfig := { RealtimeConfig.standard with
      maxDeviationMicros := 9223372036854775807 }
    let loop := Loop.start c.pace 0 .empty
    let recorded := loop.deviations c.pace [(100000, 0)]
    c.validate = .ok () ∧ c.maxDeviation = 18446744073709551615 ∧ recorded = [0] ∧
      recorded.countP (fun d => (c.maxDeviation : Int) < d.toInt) = 0 ∧
      (loop.run c.pace [(100000, 0)]).statistics.summary.misses = 1 := by
  intro c loop recorded
  refine ⟨by decide, by decide, by decide, by decide, ?_⟩
  rw [summary_misses]
  decide

end Telemetry.Scheduling
