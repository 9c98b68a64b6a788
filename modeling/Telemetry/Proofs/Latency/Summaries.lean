import Mathlib
import Telemetry.Latency.Statistics
import Telemetry.Proofs.Latency.Ranks

/-!
# What a summary says

Between two resets statistics take in deviations and misses in any order. The order leaves no mark
(`recorded_perm`), and neither does what came before the last reset (`run_eq`), so a summary is that
of the deviations and misses since then: their number, their least and greatest, the mean of their
sum as far as a word holds it (`summary_of_events`), and percentiles that are off by a 32nd at most,
lie between the least and the greatest, and are in order (`percentiles_of_events`).

## How the proof goes

A run of events is brought to one form, the statistics of a list of deviations with a number of
misses beside them (`run_eq`, by induction from the last event). A reset is where the form starts
anew: it stores every field and zeroes bucket after bucket, and `reset_eq_empty` says that this
comes to empty statistics, provided that there are as many buckets as there should be. They always
are (`size_recorded`), since recording only changes counts. Each figure of `recorded` is then a
figure of the list (`recorded_eq`), and the order of the list is no matter since two records commute
(`record_comm`).

The sum is kept in a word and may wrap. That does not spoil the order, and the mean is between the
least and the greatest deviation only if it has not (`mean_between`).
-/

namespace Telemetry.Latency

theorem toInt_min (a b : Int64) : (min a b).toInt = min a.toInt b.toInt := by
  show (if a ≤ b then a else b).toInt = _
  simp only [Int64.le_iff_toInt_le]
  split <;> omega

theorem toInt_max (a b : Int64) : (max a b).toInt = max a.toInt b.toInt := by
  show (if a ≤ b then b else a).toInt = _
  simp only [Int64.le_iff_toInt_le]
  split <;> omega

/-- The core library says as much of the least of two signed words only. -/
instance lawfulOrderMax : Std.LawfulOrderLeftLeaningMax Int64 where
  max_eq_left a b h := by
    rw [Int64.le_iff_toInt_le] at h
    rw [← Int64.toInt_inj, toInt_max]
    omega
  max_eq_right a b h := by
    rw [Int64.le_iff_toInt_le] at h
    rw [← Int64.toInt_inj, toInt_max]
    omega

/-! ## Events -/

/-- What statistics are told. -/
inductive Event where
  | deviation (d : Int64)
  | miss
  | reset
  deriving DecidableEq, Repr

/-- The deviation of an event. -/
def Event.deviation? : Event → Option Int64
  | .deviation d => some d
  | .miss | .reset => none

/-- What came after the last reset. -/
def sinceReset (events : List Event) : List Event := events.rtakeWhile (· ≠ .reset)

/-- The deviations since the last reset. -/
def deviations (events : List Event) : List Int64 := (sinceReset events).filterMap Event.deviation?

/-- The misses since the last reset. -/
def missed (events : List Event) : Nat := (sinceReset events).count .miss

theorem sinceReset_concat (events : List Event) (e : Event) :
    sinceReset (events ++ [e]) = if e = .reset then [] else sinceReset events ++ [e] := by
  rw [sinceReset, List.rtakeWhile_concat]
  by_cases h : e = .reset <;> simp [h, sinceReset]

namespace Statistics

/-- What an event does. -/
def apply (s : Statistics) : Event → Statistics
  | .deviation d => s.record d
  | .miss => s.recordMiss
  | .reset => s.reset

/-- One event after another. -/
def run (s : Statistics) (events : List Event) : Statistics := events.foldl apply s

/-- The exact sum of some deviations. -/
def total (deviations : List Int64) : Int := (deviations.map Int64.toInt).sum

/-- The statistics of some deviations. -/
def recorded (deviations : List Int64) : Statistics := deviations.foldl record empty

/-- A reset leaves nothing of what was, as long as no bucket is missing. -/
theorem reset_eq_empty {s : Statistics} (hsize : s.histogram.counts.size = bucketCount) :
    s.reset = empty := by
  rw [reset, Histogram.clear_eq_empty hsize]
  rfl

theorem size_recorded (deviations : List Int64) :
    (recorded deviations).histogram.counts.size = bucketCount := by
  have hhistogram : ∀ s : Statistics,
      (deviations.foldl record s).histogram = deviations.foldl Histogram.record s.histogram := by
    induction deviations with
    | nil => exact fun _ => rfl
    | cons d deviations ih => exact fun s => ih (s.record d)
  rw [recorded, hhistogram, Histogram.size_foldl_record]
  simp [empty, Histogram.empty]

/-- Statistics that have met some events are those of the deviations and misses since the last
reset. -/
theorem run_eq (events : List Event) : empty.run events
    = { recorded (deviations events) with misses := missed events } := by
  induction events using List.reverseRecOn with
  | nil => rfl
  | append_singleton events e ih =>
    have hrun : empty.run (events ++ [e]) = (empty.run events).apply e := by simp [run]
    rw [hrun, ih, deviations, deviations, missed, missed, sinceReset_concat]
    cases e with
    | deviation d => simp [apply, recorded, record, Event.deviation?]
    | miss => simp [apply, recordMiss, List.filterMap_cons, Event.deviation?]
    | reset =>
      -- what was recorded before does not matter, only that it has all its buckets
      have hreset := reset_eq_empty
        (s := { recorded (deviations events) with misses := missed events }) (size_recorded _)
      exact hreset.trans (by simp [recorded, empty])

/-! ## Deviations -/

/-- Two deviations may change places. -/
theorem record_comm (s : Statistics) (a b : Int64) :
    (s.record a).record b = (s.record b).record a := by
  -- increments of two buckets, or twice of the same
  have hcounts : (s.histogram.counts.modify (bucketOf a) (· + 1)).modify (bucketOf b) (· + 1)
      = (s.histogram.counts.modify (bucketOf b) (· + 1)).modify (bucketOf a) (· + 1) := by
    ext i
    · simp
    · simp only [Array.getElem_modify]
      split <;> split <;> rfl
  simp only [record, Histogram.record, hcounts]
  congr 1
  · ac_rfl
  · ac_rfl
  · rw [← Int64.toInt_inj]
    simp only [toInt_max]
    omega

theorem recorded_perm {ds ds' : List Int64} (h : ds.Perm ds') : recorded ds = recorded ds' :=
  h.foldl_eq' (fun a _ b _ s => record_comm s a b) empty

/-- Each figure of the statistics is that of the deviations. -/
theorem recorded_eq (ds : List Int64) : recorded ds
    = ⟨ds.length, Int64.ofInt (total ds), ds.foldl min Int64.maxValue,
        ds.foldl max Int64.minValue, 0, Histogram.tallied ds⟩ := by
  induction ds using List.reverseRecOn with
  | nil => rfl
  | append_singleton ds d ih =>
    rw [recorded, List.foldl_append, ← recorded, ih]
    simp [record, total, Histogram.tallied, Int64.ofInt_add]

theorem min?_eq_some_least {ds : List Int64} (h : ds ≠ []) :
    ds.min? = some (recorded ds).least := by
  obtain ⟨m, hm⟩ := Option.ne_none_iff_exists'.1 (List.min?_eq_none_iff.not.2 h)
  have hle := Int64.le_iff_toInt_le.1 (Int64.le_maxValue m)
  rw [recorded_eq, List.foldl_min, hm, Option.getD_some, Option.some_inj, ← Int64.toInt_inj,
    toInt_min]
  omega

theorem max?_eq_some_greatest {ds : List Int64} (h : ds ≠ []) :
    ds.max? = some (recorded ds).greatest := by
  obtain ⟨m, hm⟩ := Option.ne_none_iff_exists'.1 (List.max?_eq_none_iff.not.2 h)
  have hle := Int64.le_iff_toInt_le.1 (Int64.minValue_le m)
  rw [recorded_eq, List.foldl_max, hm, Option.getD_some, Option.some_inj, ← Int64.toInt_inj,
    toInt_max]
  omega

theorem least_le {ds : List Int64} {d : Int64} (h : d ∈ ds) :
    (recorded ds).least.toInt ≤ d.toInt :=
  Int64.le_iff_toInt_le.1
    ((List.min?_eq_some_iff.1 (min?_eq_some_least (List.ne_nil_of_mem h))).2 d h)

theorem le_greatest {ds : List Int64} {d : Int64} (h : d ∈ ds) :
    d.toInt ≤ (recorded ds).greatest.toInt :=
  Int64.le_iff_toInt_le.1
    ((List.max?_eq_some_iff.1 (max?_eq_some_greatest (List.ne_nil_of_mem h))).2 d h)

/-! ## The mean -/

/-- A quotient truncated toward zero is between two bounds if the dividend is between their
multiples. -/
theorem tdiv_between {least greatest sum : Int} {n : Nat} (hn : 0 < n)
    (hleast : n * least ≤ sum) (hgreatest : sum ≤ n * greatest) :
    least ≤ sum.tdiv n ∧ sum.tdiv n ≤ greatest := by
  have hpos : (0 : Int) < n := by exact_mod_cast hn
  -- the bounds are quotients themselves, of their own multiples
  have hcancel (a : Int) : (n * a).tdiv n = a := Int.mul_tdiv_cancel_left a hpos.ne'
  constructor
  · rw [← hcancel least]
    exact Int.tdiv_le_tdiv hpos hleast
  · rw [← hcancel greatest]
    exact Int.tdiv_le_tdiv hpos hgreatest

/-- The sum of deviations is at least as many times the least of them, and at most as many times
the greatest. -/
theorem total_between (ds : List Int64) : ds.length * (recorded ds).least.toInt ≤ total ds ∧
    total ds ≤ ds.length * (recorded ds).greatest.toInt := by
  have hleast := List.card_nsmul_le_sum (ds.map Int64.toInt) (recorded ds).least.toInt
    (by simpa using fun d hd => least_le hd)
  have hgreatest := List.sum_le_card_nsmul (ds.map Int64.toInt) (recorded ds).greatest.toInt
    (by simpa using fun d hd => le_greatest hd)
  simp only [List.length_map, nsmul_eq_mul] at hleast hgreatest
  exact ⟨hleast, hgreatest⟩

/-- A signed word divided by a count is the quotient truncated toward zero. -/
theorem toInt_div_ofNat (a : Int64) {n : Nat} (h : n < 2 ^ 63) :
    (a / Int64.ofNat n).toInt = a.toInt.tdiv n := by
  have hn := Int64.toInt_ofNat_of_lt h
  rw [Int64.toInt_div_of_ne_right, hn]
  intro hneg
  rw [hneg] at hn
  simp at hn

theorem mean_eq (ds : List Int64) : (recorded ds).sum / Int64.ofNat (recorded ds).count
    = Int64.ofInt (total ds) / Int64.ofNat ds.length := by rw [recorded_eq]

/-- The mean is what is left of the sum in a signed word, divided by the count. -/
theorem toInt_mean {ds : List Int64} (h : ds.length < 2 ^ 63) :
    ((recorded ds).sum / Int64.ofNat (recorded ds).count).toInt
      = (Int64.ofInt (total ds)).toInt.tdiv ds.length := by
  rw [mean_eq, toInt_div_ofNat _ h]

theorem mean_between {ds : List Int64} (hds : ds ≠ []) (h : ds.length < 2 ^ 63)
    (hmin : Int64.minValue.toInt ≤ total ds) (hmax : total ds ≤ Int64.maxValue.toInt) :
    (recorded ds).least ≤ (recorded ds).sum / Int64.ofNat (recorded ds).count ∧
      (recorded ds).sum / Int64.ofNat (recorded ds).count ≤ (recorded ds).greatest := by
  have hexact : (Int64.ofInt (total ds)).toInt = total ds := by
    rw [Int64.toInt_minValue] at hmin
    rw [Int64.toInt_maxValue] at hmax
    exact Int64.toInt_ofInt_of_le hmin (Int.lt_of_le_sub_one hmax)
  simp only [Int64.le_iff_toInt_le, toInt_mean h, hexact]
  exact tdiv_between (List.length_pos_iff.2 hds) (total_between ds).1 (total_between ds).2

/-! ## Percentiles -/

/-- A percentile is the histogram's, held between the least and the greatest deviation. -/
theorem toInt_percentile (s : Statistics) {percent : Nat}
    (h : s.histogram.percentile percent < 2 ^ 63) : (s.percentile percent).toInt
      = min (max (s.histogram.percentile percent : Int) s.least.toInt) s.greatest.toInt := by
  rw [percentile, toInt_min, toInt_max, Int64.toInt_ofNat_of_lt h]

/-- A percentile of deviations comes from the deviation of its rank. -/
theorem toInt_percentile_recorded {ds : List Int64} {percent v : Nat}
    (hv : (ordered ds)[Histogram.rank percent ds.length - 1]? = some v) :
    ((recorded ds).percentile percent).toInt
      = min (max (midpoint (bucketOfNat v) : Int) (recorded ds).least.toInt)
          (recorded ds).greatest.toInt := by
  have hpercentile : (recorded ds).histogram.percentile percent = midpoint (bucketOfNat v) := by
    rw [recorded_eq]
    exact Histogram.percentile_tallied hv
  obtain ⟨d, _, rfl⟩ := mem_ordered.1 (List.mem_of_getElem? hv)
  rw [toInt_percentile, hpercentile]
  rw [hpercentile]
  exact midpoint_lt (Histogram.bucketOf_lt d)

theorem getElem?_rank {ds : List Int64} (h : ds ≠ []) {percent : Nat} (hpercent : percent ≤ 100) :
    ∃ v, (ordered ds)[Histogram.rank percent ds.length - 1]? = some v := by
  have hlt := Histogram.rank_sub_one_lt hpercent (List.length_pos_iff.2 h)
  exact ⟨_, List.getElem?_eq_getElem (by simpa using hlt)⟩

/-- A percentile is off by a 32nd at most. Holding it between the least and the greatest deviation
brings it no further away from the deviation of its rank, which lies between them. -/
theorem percentile_close {ds : List Int64} {percent v : Nat}
    (hv : (ordered ds)[Histogram.rank percent ds.length - 1]? = some v)
    (hlate : ∃ d ∈ ds, 0 ≤ d.toInt) :
    32 * (((recorded ds).percentile percent).toInt - v).natAbs ≤ v := by
  obtain ⟨late, hlate, hzero⟩ := hlate
  have hgreatest := le_greatest hlate
  have hclose := midpoint_close v
  rw [toInt_percentile_recorded hv]
  obtain ⟨d, hd, rfl⟩ := mem_ordered.1 (List.mem_of_getElem? hv)
  have hleast := least_le hd
  have hgreatest' := le_greatest hd
  omega

/-- Where every call ends before its deadline, each percentile is the greatest deviation. -/
theorem percentile_of_early {ds : List Int64} {percent v : Nat}
    (hv : (ordered ds)[Histogram.rank percent ds.length - 1]? = some v)
    (hearly : ∀ d ∈ ds, d.toInt < 0) :
    (recorded ds).percentile percent = (recorded ds).greatest := by
  have hpercentile := toInt_percentile_recorded hv
  obtain ⟨d, hd, rfl⟩ := mem_ordered.1 (List.mem_of_getElem? hv)
  have hmax := List.max?_eq_some_iff.1 (max?_eq_some_greatest (List.ne_nil_of_mem hd))
  have hgreatest := hearly _ hmax.1
  have hmid : midpoint (bucketOfNat d.toInt.toNat) = 0 := by
    rw [Int.toNat_of_nonpos (Int.le_of_lt (hearly d hd))]
    rfl
  rw [← Int64.toInt_inj, hpercentile, hmid]
  omega

theorem percentile_mono {ds : List Int64} (h : ds ≠ []) {percent percent' : Nat}
    (hle : percent ≤ percent') (hpercent : percent' ≤ 100) :
    (recorded ds).percentile percent ≤ (recorded ds).percentile percent' := by
  obtain ⟨v, hv⟩ := getElem?_rank h (Nat.le_trans hle hpercent)
  obtain ⟨v', hv'⟩ := getElem?_rank h hpercent
  have hvalues : v ≤ v' := by
    obtain ⟨hi, rfl⟩ := List.getElem?_eq_some_iff.1 hv
    obtain ⟨hi', rfl⟩ := List.getElem?_eq_some_iff.1 hv'
    exact (pairwise_ordered ds).rel_get_of_le
      (Nat.sub_le_sub_right (Histogram.rank_mono hle) 1 : (⟨_, hi⟩ : Fin _) ≤ ⟨_, hi'⟩)
  have hmid := midpoint_strictMono.monotone (bucketOfNat_mono hvalues)
  rw [Int64.le_iff_toInt_le, toInt_percentile_recorded hv, toInt_percentile_recorded hv']
  omega

theorem percentile_between {ds : List Int64} (h : ds ≠ []) (percent : Nat) :
    (recorded ds).least ≤ (recorded ds).percentile percent ∧
      (recorded ds).percentile percent ≤ (recorded ds).greatest := by
  have hmin := List.min?_eq_some_iff.1 (min?_eq_some_least h)
  have hle := le_greatest hmin.1
  simp only [Int64.le_iff_toInt_le, percentile, toInt_min, toInt_max]
  omega

end Statistics

/-! ## Summaries -/

open Statistics

/-- The percentiles of a summary, each with the share of deviations it stands for. -/
def Summary.percentiles (s : Summary) : List (ℚ × Int64) :=
  [(1 / 2, s.p50), (19 / 20, s.p95), (99 / 100, s.p99)]

theorem summary_run {events : List Event} (h : deviations events ≠ []) :
    let s := recorded (deviations events)
    (empty.run events).summary
      = ⟨s.count, s.least, s.greatest, s.sum / Int64.ofNat s.count, s.percentile 50,
          s.percentile 95, s.percentile 99, missed events⟩ := by
  have hcount : (recorded (deviations events)).count ≠ 0 := by
    rw [recorded_eq]
    simpa using h
  rw [run_eq, summary, if_neg hcount]
  rfl

/-- **A summary is that of the current deviations and misses.** Those are the ones since the last
reset: whatever came before, and in whatever order they came, the summary is the same. It counts
them, names the least and the greatest deviation, and is all zeros without deviations, misses apart.
The mean is the sum, as far as a signed word holds it, divided by the count and truncated toward
zero; it lies between the least and the greatest deviation if the word holds the whole sum. -/
theorem summary_of_events (events : List Event) :
    let ds := deviations events
    let s := (empty.run events).summary
    (∀ events', (deviations events').Perm ds → missed events' = missed events →
      (empty.run events').summary = s) ∧
    (∀ before : Statistics, before.histogram.counts.size = bucketCount →
      (before.run (.reset :: events)).summary = s) ∧
    (∀ past, (empty.run (past ++ .reset :: events)).summary = s) ∧
    s.count = ds.length ∧ s.misses = missed events ∧
    (ds = [] → s = ⟨0, 0, 0, 0, 0, 0, 0, missed events⟩) ∧
    (ds ≠ [] → ds.min? = some s.min ∧ ds.max? = some s.max ∧
      s.avg = Int64.ofInt (total ds) / Int64.ofNat ds.length ∧
      (ds.length < 2 ^ 63 →
        s.avg.toInt = (Int64.ofInt (total ds)).toInt.tdiv ds.length ∧
        (Int64.minValue.toInt ≤ total ds → total ds ≤ Int64.maxValue.toInt →
          s.min ≤ s.avg ∧ s.avg ≤ s.max))) := by
  intro ds s
  have hreset : ∀ before : Statistics, before.histogram.counts.size = bucketCount →
      before.run (.reset :: events) = empty.run events := by
    intro before hsize
    rw [run, List.foldl_cons, apply, reset_eq_empty hsize, ← run]
  refine ⟨?_, ?_, ?_, ?_⟩
  · intro events' hperm hmissed
    rw [run_eq, recorded_perm hperm, hmissed, ← run_eq]
  · intro before hsize
    rw [hreset before hsize]
  · intro past
    have hsize : (empty.run past).histogram.counts.size = bucketCount := by
      rw [run_eq]
      exact size_recorded _
    rw [run, List.foldl_append, ← run, ← run, hreset _ hsize]
  by_cases hds : ds = []
  · have hs : s = ⟨0, 0, 0, 0, 0, 0, 0, missed events⟩ := by
      rw [show s = _ from congrArg summary (run_eq events), show deviations events = [] from hds]
      rfl
    simp [hs, hds]
  · have hcount : (recorded ds).count = ds.length := by rw [recorded_eq]
    rw [show s = _ from summary_run hds]
    refine ⟨hcount, rfl, fun h => absurd h hds, fun _ => ?_⟩
    refine ⟨min?_eq_some_least hds, max?_eq_some_greatest hds, mean_eq ds, fun hlength => ?_⟩
    exact ⟨toInt_mean hlength, mean_between hds hlength⟩

/-- The mean of three deviations is truncated toward zero, and in another order they give the same
summary. -/
theorem mean_of_three :
    let events : List Event := [.deviation 90000, .reset, .deviation (-500), .miss, .deviation 400,
      .deviation (-100)]
    let reordered : List Event := [.deviation (-100), .deviation 400, .deviation (-500), .miss]
    let s := (empty.run events).summary
    (deviations reordered).Perm (deviations events) ∧ missed reordered = missed events ∧
      (empty.run reordered).summary = s ∧
      (empty.record 7).histogram.counts.size = bucketCount ∧
      ((empty.record 7).run (.reset :: events)).summary = s ∧ deviations events ≠ [] ∧
      (deviations events).length < 2 ^ 63 ∧ s.count = 3 ∧ s.misses = 1 ∧ s.avg.toInt = -66 ∧
      s.min ≤ s.avg ∧ s.avg ≤ s.max := by
  intro events reordered s
  have hdeviations : deviations events = [-500, 400, -100] := by cbv
  have hmissed : missed events = 1 := by cbv
  have hperm : (deviations reordered).Perm (deviations events) := by
    rw [hdeviations, show deviations reordered = [-100, 400, -500] by cbv]
    decide
  have hmissed' : missed reordered = missed events := by cbv
  have hne : deviations events ≠ [] := by simp [hdeviations]
  have hlength : (deviations events).length < 2 ^ 63 := by simp [hdeviations]
  have hsize : (empty.record 7).histogram.counts.size = bucketCount := by
    simp [record, Histogram.record, empty, Histogram.empty]
  obtain ⟨hsame, hreset, -, hcount, hmisses, -, hrest⟩ := summary_of_events events
  obtain ⟨-, -, -, hmean⟩ := hrest hne
  obtain ⟨havg, hbetween⟩ := hmean hlength
  refine ⟨hperm, hmissed', hsame reordered hperm hmissed', hsize, hreset _ hsize, hne, hlength,
    ?_, ?_, ?_, ?_⟩
  · rw [hcount, hdeviations]
    rfl
  · rw [hmisses, hmissed]
  · rw [havg, hdeviations]
    decide
  · apply hbetween
    · rw [hdeviations]
      decide
    · rw [hdeviations]
      decide

/-- **Percentiles are accurate and in order.** With at least one call that did not end before its
deadline, the percentile of a share `q` of `n` deviations is off by a 32nd at most from the
deviation of rank `q n`, rounded up and at least one, in the order of all deviations, early ends
counted as zero. Where all calls end early every percentile is the greatest deviation. Percentiles
are in order, between the least and the greatest deviation. -/
theorem percentiles_of_events (events : List Event) (h : deviations events ≠ []) :
    let ds := deviations events
    let s := (empty.run events).summary
    (∀ q p, (q, p) ∈ s.percentiles →
      ((∃ d ∈ ds, 0 ≤ d.toInt) →
        ∃ v, (ordered ds)[max 1 ⌈q * ds.length⌉₊ - 1]? = some v ∧ 32 * (p.toInt - v).natAbs ≤ v) ∧
      ((∀ d ∈ ds, d.toInt < 0) → ds.max? = some p)) ∧
    s.min ≤ s.p50 ∧ s.p50 ≤ s.p95 ∧ s.p95 ≤ s.p99 ∧ s.p99 ≤ s.max := by
  intro ds s
  have hs : s = _ := summary_run h
  rw [hs]
  refine ⟨?_, (percentile_between h 50).1, percentile_mono h (by decide) (by decide),
    percentile_mono h (by decide) (by decide), (percentile_between h 99).2⟩
  intro q p hp
  obtain ⟨percent, hpercent, rfl, rfl⟩ : ∃ percent : Nat, percent ≤ 100 ∧ q = percent / 100 ∧
      p = (recorded ds).percentile percent := by
    simp only [Summary.percentiles, List.mem_cons, Prod.mk.injEq, List.not_mem_nil, or_false] at hp
    rcases hp with ⟨rfl, rfl⟩ | ⟨rfl, rfl⟩ | ⟨rfl, rfl⟩
    · exact ⟨50, by decide, by norm_num, rfl⟩
    · exact ⟨95, by decide, by norm_num, rfl⟩
    · exact ⟨99, by decide, by norm_num, rfl⟩
  obtain ⟨v, hv⟩ := getElem?_rank h hpercent
  rw [← Histogram.rank_eq]
  constructor
  · intro hlate
    exact ⟨v, hv, percentile_close hv hlate⟩
  · intro hearly
    rw [percentile_of_early hv hearly]
    exact max?_eq_some_greatest h

/-- Before the reset all is forgotten; of the three deviations after it the second is the median. -/
theorem median_of_three :
    let events : List Event := [.deviation 90000, .miss, .reset, .deviation 2000, .deviation (-500),
      .miss, .deviation 1500]
    let s := (empty.run events).summary
    deviations events ≠ [] ∧ ordered (deviations events) = [0, 1500, 2000] ∧
      s.p50.toInt = 1504 ∧
      (∃ v : Nat, (ordered (deviations events))[1]? = some v ∧ 32 * (s.p50.toInt - v).natAbs ≤ v) ∧
      s.min ≤ s.p50 ∧ s.p50 ≤ s.p95 ∧ s.p95 ≤ s.p99 ∧ s.p99 ≤ s.max := by
  intro events s
  have hdeviations : deviations events = [2000, -500, 1500] := by cbv
  have hordered : ordered (deviations events) = [0, 1500, 2000] := by
    rw [hdeviations]
    cbv
  have h : deviations events ≠ [] := by simp [hdeviations]
  obtain ⟨hclose, horder⟩ := percentiles_of_events events h
  have hrank : max 1 ⌈(1 / 2 : ℚ) * (deviations events).length⌉₊ - 1 = 1 := by
    rw [hdeviations]
    norm_num
  have hmem : ((1 / 2 : ℚ), s.p50) ∈ s.percentiles := List.mem_cons_self
  have hlate := (hclose (1 / 2) s.p50 hmem).1 ⟨2000, by simp [hdeviations], by decide⟩
  rw [hrank] at hlate
  have hmedian : s.p50.toInt = 1504 := by
    have hv : (ordered (deviations events))[Histogram.rank 50 (deviations events).length - 1]?
        = some 1500 := by
      rw [hordered, hdeviations]
      rfl
    rw [show s.p50 = _ from congrArg Summary.p50 (summary_run h), toInt_percentile_recorded hv,
      recorded_eq, hdeviations]
    decide
  exact ⟨h, hordered, hmedian, hlate, horder⟩
end Telemetry.Latency
