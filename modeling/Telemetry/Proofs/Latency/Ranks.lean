import Mathlib
import Telemetry.Proofs.Latency.Buckets

/-!
# The rank of a deviation

A percentile asks for the deviation of a rank in the order of all deviations, early ends counted as
zero (`ordered`). A histogram knows no more than how many deviations fell into each bucket
(`counts_tallied`), and walks the buckets until it has seen as many as the rank. Since a greater
deviation is in no lower bucket, the walk ends in the bucket of the deviation of that rank
(`percentile_tallied`).

Two counts are compared for this. How many deviations are in buckets below a given one is a sum of
counts (`sum_countP_eq`), which is what the walk has seen when it comes to that bucket
(`bucketAt_eq_some`). How many values are below a bound is also where the bound cuts the ordered
list (`getElem_iff_lt_countP`), and a bucket bounds values from below as well as deviations.
-/

namespace Telemetry.Latency

/-! ## The walk -/

/-- The walk ends at the first bucket with which the rank is reached. -/
theorem bucketAt_eq_some {rank : Nat} : ∀ {counts : List Nat} {seen bucket i : Nat},
    i < counts.length → seen + (counts.take i).sum < rank →
    rank ≤ seen + (counts.take (i + 1)).sum →
    Histogram.bucketAt rank seen bucket counts = some (bucket + i)
  | [], _, _, _, hi, _, _ => absurd hi (Nat.not_lt_zero _)
  | n :: counts, seen, bucket, 0, _, _, hat => by
      have hn : rank ≤ seen + n := by simpa using hat
      simp [Histogram.bucketAt, hn]
  | n :: counts, seen, bucket, i + 1, hi, hbefore, hat => by
      simp only [List.take_succ_cons, List.sum_cons, List.length_cons] at hi hbefore hat
      have hn : ¬ rank ≤ seen + n := by omega
      have ih : Histogram.bucketAt rank (seen + n) (bucket + 1) counts = some (bucket + 1 + i) :=
        bucketAt_eq_some (by omega) (by omega) (by omega)
      rw [Histogram.bucketAt, if_neg hn, ih, Nat.add_right_comm, Nat.add_assoc]

theorem countP_lt_succ {α : Type} (f : α → Nat) (l : List α) (bound : Nat) :
    l.countP (f · < bound + 1) = l.countP (f · < bound) + l.countP (f · = bound) := by
  induction l with
  | nil => rfl
  | cons a l ih =>
    simp only [List.countP_cons, ih, decide_eq_true_eq]
    split_ifs <;> omega

/-- Counts for each value of a function add up to the count of the values below a bound. -/
theorem sum_countP_eq {α : Type} (f : α → Nat) (l : List α) (bound : Nat) :
    ((List.range bound).map fun b => l.countP (f · = b)).sum = l.countP (f · < bound) := by
  induction bound with
  | zero => simp
  | succ bound ih =>
    rw [List.range_succ, List.map_append, List.sum_append, ih, countP_lt_succ]
    simp

/-! ## What a histogram counts -/

namespace Histogram

/-- The histogram of some deviations. -/
def tallied (deviations : List Int64) : Histogram := deviations.foldl record empty

/-- A bucket counts the deviations that belong there. -/
theorem counts_tallied (deviations : List Int64) : (tallied deviations).counts.toList
    = (List.range bucketCount).map fun b => deviations.countP (bucketOf · = b) := by
  induction deviations using List.reverseRecOn with
  | nil => simp [tallied, empty, List.map_const']
  | append_singleton deviations d ih =>
    rw [tallied, List.foldl_append, ← tallied]
    simp only [List.foldl_cons, List.foldl_nil, record, Array.toList_modify, ih]
    apply List.ext_getElem (by simp)
    intro b hb _
    simp only [List.getElem_modify, List.getElem_map, List.getElem_range, List.countP_append,
      List.countP_singleton, decide_eq_true_eq]
    split <;> rfl

theorem total_tallied (deviations : List Int64) :
    (tallied deviations).total = deviations.length := by
  calc (tallied deviations).total = (tallied deviations).counts.toList.sum := by
        rw [total, ← Array.foldl_toList, List.sum_eq_foldl]
    _ = deviations.countP (bucketOf · < bucketCount) := by rw [counts_tallied, sum_countP_eq]
    _ = deviations.length := by simp [bucketOf_lt]

end Histogram

/-! ## Order -/

/-- The deviations in order, from the least on; one before its deadline counts as zero. -/
def ordered (deviations : List Int64) : List Nat :=
  (deviations.map fun d => d.toInt.toNat).mergeSort

@[simp] theorem length_ordered (deviations : List Int64) :
    (ordered deviations).length = deviations.length := by simp [ordered]

theorem pairwise_ordered (deviations : List Int64) : (ordered deviations).Pairwise (· ≤ ·) := by
  have htrans (a b c : Nat) : decide (a ≤ b) → decide (b ≤ c) → decide (a ≤ c) := by
    simpa using Nat.le_trans
  have htotal (a b : Nat) : decide (a ≤ b) || decide (b ≤ a) := by
    simpa using Nat.le_total a b
  have hsorted := List.pairwise_mergeSort htrans htotal (deviations.map fun d => d.toInt.toNat)
  simpa [ordered] using hsorted

theorem mem_ordered {deviations : List Int64} {v : Nat} :
    v ∈ ordered deviations ↔ ∃ d ∈ deviations, d.toInt.toNat = v := by
  rw [ordered, (List.mergeSort_perm _ _).mem_iff, List.mem_map]

theorem countP_ordered (deviations : List Int64) (p : Nat → Bool) :
    (ordered deviations).countP p = deviations.countP (fun d => p d.toInt.toNat) := by
  rw [ordered, (List.mergeSort_perm _ _).countP_eq, List.countP_map]
  rfl

/-- Of values in order those that satisfy a condition on small values come first. -/
theorem getElem_iff_lt_countP {p : Nat → Bool} (hp : ∀ x y, x ≤ y → p y → p x) :
    ∀ {s : List Nat}, s.Pairwise (· ≤ ·) → ∀ {i : Nat} (hi : i < s.length),
      p s[i] ↔ i < s.countP p
  | [], _, _, hi => absurd hi (Nat.not_lt_zero _)
  | a :: s, hs, i, hi => by
      obtain ⟨ha, hs⟩ := List.pairwise_cons.1 hs
      by_cases hpa : p a
      · cases i with
        | zero => simp [hpa]
        | succ i => simp [hpa, getElem_iff_lt_countP hp hs]
      · -- no value from here on is small enough
        have hnone : (a :: s).countP p = 0 := by
          simp only [List.countP_eq_zero, List.mem_cons, forall_eq_or_imp]
          exact ⟨hpa, fun b hb hpb => hpa (hp a b (ha b hb) hpb)⟩
        have hi' : ¬ p (a :: s)[i] := List.countP_eq_zero.1 hnone _ (List.getElem_mem hi)
        simp [hnone, hi']

/-- The bucket of the value of a rank is the one in which the rank is reached. -/
theorem countP_bucket {deviations : List Int64} {i v : Nat}
    (hv : (ordered deviations)[i]? = some v) :
    deviations.countP (bucketOf · < bucketOfNat v) ≤ i ∧
      i < deviations.countP (bucketOf · < bucketOfNat v + 1) := by
  obtain ⟨hi, rfl⟩ := List.getElem?_eq_some_iff.1 hv
  have hcount (b : Nat) : decide (bucketOfNat (ordered deviations)[i] < b)
      ↔ i < deviations.countP (bucketOf · < b) := by
    have hdown : ∀ x y, x ≤ y → decide (bucketOfNat y < b) → decide (bucketOfNat x < b) := by
      intro x y hxy hy
      simp only [decide_eq_true_eq] at *
      exact Nat.lt_of_le_of_lt (bucketOfNat_mono hxy) hy
    rw [getElem_iff_lt_countP hdown (pairwise_ordered deviations) hi, countP_ordered]
    rfl
  constructor
  · exact Nat.le_of_not_lt fun h => by simpa using (hcount _).2 h
  · exact (hcount _).1 (by simp)

/-! ## Percentiles -/

namespace Histogram

/-- The rank of a percentile is its share of all deviations, rounded up, and at least one. -/
theorem rank_eq (percent total : Nat) :
    rank percent total = max 1 ⌈(percent / 100 : ℚ) * total⌉₊ := by
  have hceil : (percent * total + 99) / 100 = ⌈(percent / 100 : ℚ) * total⌉₊ := by
    apply eq_of_forall_ge_iff
    intro k
    rw [Nat.ceil_le]
    have hcast : (percent / 100 : ℚ) * total ≤ k ↔ percent * total ≤ 100 * k := by
      rw [div_mul_eq_mul_div, div_le_iff₀ (by norm_num), mul_comm (k : ℚ)]
      exact_mod_cast Iff.rfl
    rw [hcast]
    omega
  rw [rank, hceil]

theorem rank_mono {percent percent' total : Nat} (h : percent ≤ percent') :
    rank percent total ≤ rank percent' total := by
  have hmul := Nat.mul_le_mul_right total h
  unfold rank
  omega

/-- There is a deviation of the rank of a percentile. -/
theorem rank_sub_one_lt {percent total : Nat} (hpercent : percent ≤ 100) (htotal : 0 < total) :
    rank percent total - 1 < total := by
  have hmul := Nat.mul_le_mul_right total hpercent
  unfold rank
  omega

/-- A percentile is the midpoint of the bucket of the deviation of its rank. -/
theorem percentile_tallied {deviations : List Int64} {percent v : Nat}
    (hv : (ordered deviations)[rank percent deviations.length - 1]? = some v) :
    (tallied deviations).percentile percent = midpoint (bucketOfNat v) := by
  obtain ⟨hbefore, hat⟩ := countP_bucket hv
  have hpos : 1 ≤ rank percent deviations.length := Nat.le_max_left _ _
  have hlt : bucketOfNat v < bucketCount := by
    obtain ⟨d, _, rfl⟩ := mem_ordered.1 (List.mem_of_getElem? hv)
    exact bucketOf_lt d
  have htake (k : Nat) (hk : k ≤ bucketCount) :
      (((List.range bucketCount).map fun b => deviations.countP (bucketOf · = b)).take k).sum
        = deviations.countP (bucketOf · < k) := by
    rw [← List.map_take, List.take_range, Nat.min_eq_left hk, sum_countP_eq]
  rw [percentile, total_tallied, counts_tallied, bucketAt_eq_some (i := bucketOfNat v)]
  · simp
  · simpa using hlt
  · rw [htake _ (Nat.le_of_lt hlt)]
    omega
  · rw [htake (bucketOfNat v + 1) hlt]
    omega

end Histogram

end Telemetry.Latency
