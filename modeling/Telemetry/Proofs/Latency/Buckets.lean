import Mathlib.Algebra.Order.Ring.Nat
import Mathlib.Order.Monotone.Basic
import Telemetry.Latency.Histogram

/-!
# What a bucket says of a deviation

From 16 on a number is known by its leading five binary digits and by how many digits follow them
(`octave`); below 16 nothing is left out. So the number of a bucket is sixteen times the octave plus
the leading digits, for small numbers too (`bucketOfNat_eq`), and buckets are in the order of the
numbers in them (`bucketOfNat_mono`, `midpoint_strictMono`). A midpoint lies in the bucket it stands
for (`bucketOfNat_midpoint`), and the midpoint of the bucket of a number is off by a 32nd of the
number at most (`midpoint_close`). So buckets keep as much of a deviation as they should
(`buckets_keep_order_and_size`).
-/

namespace Telemetry.Latency

/-- The binary digits of a number that its bucket leaves out. -/
def octave (v : Nat) : Nat := v.log2 - 4

theorem div_octave_lt (v : Nat) : v / 2 ^ octave v < 32 := by
  have hlog : v < 2 ^ (v.log2 + 1) := Nat.lt_log2_self
  have hle : v.log2 + 1 ≤ octave v + 5 := by
    unfold octave
    omega
  rw [Nat.div_lt_iff_lt_mul (Nat.two_pow_pos _)]
  calc v < 2 ^ (v.log2 + 1) := hlog
    _ ≤ 2 ^ (octave v + 5) := Nat.pow_le_pow_right (by decide) hle
    _ = 32 * 2 ^ octave v := by rw [Nat.pow_add, Nat.mul_comm]

/-- From 16 on there are five leading digits. -/
theorem le_div_octave {v : Nat} (h : 16 ≤ v) : 16 ≤ v / 2 ^ octave v := by
  have hlog : 4 ≤ v.log2 := (Nat.le_log2 (by omega)).2 h
  rw [Nat.le_div_iff_mul_le (Nat.two_pow_pos _)]
  calc 16 * 2 ^ octave v = 2 ^ (4 + octave v) := by rw [Nat.pow_add]
    _ = 2 ^ v.log2 := by
        congr 1
        unfold octave
        omega
    _ ≤ v := Nat.log2_self_le (by omega)

theorem octave_of_lt {v : Nat} (h : v < 16) : octave v = 0 := by
  by_cases hv : v = 0
  · simp [hv, octave]
  · have hlog := (Nat.log2_lt (k := 4) hv).2 h
    unfold octave
    omega

theorem octave_mono {v w : Nat} (h : v ≤ w) : octave v ≤ octave w := by
  have hlog : v.log2 ≤ w.log2 := by
    by_cases hv : v = 0
    · simp [hv]
    · exact (Nat.le_log2 (by omega)).2 (Nat.le_trans (Nat.log2_self_le hv) h)
  unfold octave
  omega

/-- The number of a bucket is sixteen times the octave plus the leading digits. -/
theorem bucketOfNat_eq (v : Nat) : bucketOfNat v = 16 * octave v + v / 2 ^ octave v := by
  by_cases h : v < 16
  · simp [bucketOfNat, subBuckets, h, octave_of_lt h]
  · have hlt := div_octave_lt v
    have hle := le_div_octave (Nat.le_of_not_lt h)
    simp only [bucketOfNat, subBuckets, if_neg h, Nat.shiftRight_eq_div_pow]
    simp only [octave] at *
    omega

/-! ## Order -/

/-- A greater number is in no lower bucket. -/
theorem bucketOfNat_mono : Monotone bucketOfNat := by
  intro v w h
  have hoctave := octave_mono h
  rw [bucketOfNat_eq, bucketOfNat_eq]
  rcases Nat.lt_or_eq_of_le hoctave with hlt | heq
  · -- the octaves above start where the lower one ends
    have hv := div_octave_lt v
    have hw : 16 ≤ w := by
      by_contra hw
      have hzero := octave_of_lt (Nat.lt_of_not_le hw)
      omega
    have hw' := le_div_octave hw
    omega
  · rw [heq]
    exact Nat.add_le_add_left (Nat.div_le_div_right h) _

/-- There are enough buckets for every number of 63 bits. -/
theorem bucketOfNat_lt {v : Nat} (h : v < 2 ^ 63) : bucketOfNat v < bucketCount := by
  have hv := div_octave_lt v
  have hoctave : octave v ≤ 58 := by
    by_cases hzero : v = 0
    · simp [hzero, octave]
    · have hlog := (Nat.log2_lt hzero).2 h
      unfold octave
      omega
  rw [bucketOfNat_eq, bucketCount]
  omega

/-- The midpoint of a bucket, by octave and leading digits. -/
theorem midpoint_eq {shift digits : Nat} (hlt : digits < 32) (h : shift = 0 ∨ 16 ≤ digits) :
    midpoint (16 * shift + digits) = digits * 2 ^ shift + 2 ^ shift / 2 := by
  by_cases hlow : 16 * shift + digits < 16
  · obtain rfl : shift = 0 := by omega
    have hdigits : digits < 16 := by omega
    simp [midpoint, subBuckets, hdigits]
  · have hdiv : (16 * shift + digits - 16) / 16 = shift := by omega
    have hmod : 16 + (16 * shift + digits - 16) % 16 = digits := by omega
    simp only [midpoint, subBuckets, if_neg hlow, hdiv, hmod, Nat.shiftLeft_eq, Nat.one_mul]

/-- Every bucket has its octave and leading digits. -/
theorem exists_digits (b : Nat) : ∃ shift digits, digits < 32 ∧ (shift = 0 ∨ 16 ≤ digits) ∧
    b = 16 * shift + digits := by
  by_cases h : b < 16
  · exact ⟨0, b, by omega, .inl rfl, by omega⟩
  · exact ⟨(b - 16) / 16, (b - 16) % 16 + 16, by omega, .inr (by omega), by omega⟩

/-- Midpoints are in the order of the buckets. -/
theorem midpoint_strictMono : StrictMono midpoint := by
  apply strictMono_nat_of_lt_succ
  intro b
  obtain ⟨shift, digits, hlt, h, rfl⟩ := exists_digits b
  have hpos : 0 < 2 ^ shift := Nat.two_pow_pos shift
  rw [midpoint_eq hlt h]
  by_cases hlast : digits = 31
  · -- the last bucket of an octave is followed by the first one of the next
    subst hlast
    have hnext : 16 * shift + 31 + 1 = 16 * (shift + 1) + 16 := by omega
    rw [hnext, midpoint_eq (by decide) (.inr (by decide)), Nat.pow_succ]
    omega
  · rw [Nat.add_assoc, midpoint_eq (by omega) (by omega), Nat.succ_mul]
    omega

/-- Midpoints fit a signed 64-bit word. -/
theorem midpoint_lt {b : Nat} (h : b < bucketCount) : midpoint b < 2 ^ 63 := by
  have hlast : midpoint 959 < 2 ^ 63 := by decide
  exact Nat.lt_of_le_of_lt (midpoint_strictMono.monotone (Nat.le_of_lt_succ h)) hlast

/-! ## Accuracy -/

/-- The octave of a number whose leading digits are known. -/
theorem octave_eq {shift digits v : Nat} (hlt : digits < 32) (h : shift = 0 ∨ 16 ≤ digits)
    (hle : digits * 2 ^ shift ≤ v) (hv : v < (digits + 1) * 2 ^ shift) : octave v = shift := by
  by_cases hdigits : 16 ≤ digits
  · have hlow : 2 ^ (shift + 4) ≤ v := by
      calc 2 ^ (shift + 4) = 16 * 2 ^ shift := by rw [Nat.pow_add, Nat.mul_comm]
        _ ≤ digits * 2 ^ shift := Nat.mul_le_mul_right _ hdigits
        _ ≤ v := hle
    have hhigh : v < 2 ^ (shift + 4 + 1) := by
      calc v < (digits + 1) * 2 ^ shift := hv
        _ ≤ 32 * 2 ^ shift := Nat.mul_le_mul_right _ hlt
        _ = 2 ^ (shift + 4 + 1) := by rw [Nat.add_assoc, Nat.pow_add, Nat.mul_comm]
    have hpos : 0 < 2 ^ (shift + 4) := Nat.two_pow_pos _
    have hlog : v.log2 = shift + 4 := (Nat.log2_eq_iff (by omega)).2 ⟨hlow, hhigh⟩
    rw [octave, hlog, Nat.add_sub_cancel]
  · obtain rfl : shift = 0 := by omega
    exact octave_of_lt (by omega)

/-- A bucket holds the numbers that begin with its digits. -/
theorem bucketOfNat_of_digits {shift digits v : Nat} (hlt : digits < 32)
    (h : shift = 0 ∨ 16 ≤ digits) (hle : digits * 2 ^ shift ≤ v)
    (hv : v < (digits + 1) * 2 ^ shift) : bucketOfNat v = 16 * shift + digits := by
  rw [bucketOfNat_eq, octave_eq hlt h hle hv, Nat.div_eq_of_lt_le hle hv]

/-- A midpoint lies in the bucket it stands for. -/
theorem bucketOfNat_midpoint (b : Nat) : bucketOfNat (midpoint b) = b := by
  obtain ⟨shift, digits, hlt, h, rfl⟩ := exists_digits b
  have hpos : 0 < 2 ^ shift := Nat.two_pow_pos shift
  rw [midpoint_eq hlt h]
  refine bucketOfNat_of_digits hlt h (Nat.le_add_right _ _) ?_
  rw [Nat.succ_mul]
  omega

/-- The midpoint of the bucket of a number is off by a 32nd of the number at most. -/
theorem midpoint_close (v : Nat) :
    32 * ((midpoint (bucketOfNat v) : Int) - v).natAbs ≤ v := by
  by_cases hlow : v < 16
  · simp [midpoint, bucketOfNat, subBuckets, hlow]
  · have hle := le_div_octave (Nat.le_of_not_lt hlow)
    have hmid : midpoint (bucketOfNat v)
        = v / 2 ^ octave v * 2 ^ octave v + 2 ^ octave v / 2 := by
      rw [bucketOfNat_eq]
      exact midpoint_eq (div_octave_lt v) (.inr hle)
    have hsplit := Nat.div_add_mod' v (2 ^ octave v)
    have hmod := Nat.mod_lt v (Nat.two_pow_pos (octave v))
    have hwidth : 16 * 2 ^ octave v ≤ v / 2 ^ octave v * 2 ^ octave v := Nat.mul_le_mul_right _ hle
    generalize 2 ^ octave v = width at *
    generalize v / width * width = start at *
    -- a bucket of width one holds one number; of any other the midpoint splits it in half
    omega

/-! ## Deviations -/

theorem Histogram.bucketOf_lt (d : Int64) : bucketOf d < bucketCount := by
  apply bucketOfNat_lt
  have h := d.toInt_lt
  omega

/-- A greater deviation is in no lower bucket. -/
theorem bucketOf_mono {d e : Int64} (h : d ≤ e) : bucketOf d ≤ bucketOf e := by
  apply bucketOfNat_mono
  have hle := Int64.le_iff_toInt_le.1 h
  omega

/-- The midpoint of a bucket, as a deviation. -/
theorem toInt_ofNat_midpoint {b : Nat} (h : b < bucketCount) :
    (Int64.ofNat (midpoint b)).toInt = midpoint b := by
  rw [Int64.toInt_ofNat_of_lt]
  exact midpoint_lt h

/-- The midpoint of the bucket of a deviation is off by a 32nd of the deviation at most. -/
theorem midpoint_bucketOf_close {d : Int64} (h : 0 ≤ d) :
    32 * ((midpoint (bucketOf d) : Int) - d.toInt).natAbs ≤ d.toInt := by
  have hd : 0 ≤ d.toInt := Int64.le_iff_toInt_le.1 h
  have hclose := midpoint_close d.toInt.toNat
  rw [bucketOf]
  omega

/-- Counting makes no bucket and takes none away. -/
theorem Histogram.size_foldl_record (deviations : List Int64) (h : Histogram) :
    (deviations.foldl record h).counts.size = h.counts.size := by
  induction deviations generalizing h with
  | nil => rfl
  | cons d deviations ih => simp [ih, record]

/-- As far as the loop over the buckets came, they are zero; the others are as they were. -/
theorem Histogram.getElem?_foldl_zero (h : Histogram) (n i : Nat) :
    ((List.range n).foldl zero h).counts[i]?
      = if i < n then h.counts[i]?.map fun _ => 0 else h.counts[i]? := by
  induction n with
  | zero => simp
  | succ n ih =>
    rw [List.range_succ, List.foldl_append, List.foldl_cons, List.foldl_nil, zero,
      Array.getElem?_setIfInBounds]
    by_cases hi : n = i
    · subst hi
      -- the bucket that the last step sets was left alone by those before it
      rw [if_neg (Nat.lt_irrefl n)] at ih
      rw [if_pos rfl, if_pos (Nat.lt_succ_self n)]
      by_cases hn : n < h.counts.size
      · rw [Array.getElem?_eq_getElem hn] at ih ⊢
        rw [if_pos (Array.getElem?_eq_some_iff.1 ih).1]
        rfl
      · rw [Array.getElem?_eq_none (Nat.le_of_not_lt hn)] at ih ⊢
        rw [if_neg (Nat.not_lt.2 (Array.getElem?_eq_none_iff.1 ih))]
        rfl
    · rw [if_neg hi, ih]
      by_cases hlt : i < n
      · rw [if_pos hlt, if_pos (Nat.lt_succ_of_lt hlt)]
      · rw [if_neg hlt, if_neg (by omega)]

/-- A histogram with all its buckets is as new once they are set to zero. -/
theorem Histogram.clear_eq_empty {h : Histogram} (hsize : h.counts.size = bucketCount) :
    h.clear = empty := by
  have hcounts : h.clear.counts = empty.counts := by
    refine Array.ext_getElem? fun i => ?_
    rw [clear, getElem?_foldl_zero, empty, Array.getElem?_replicate, hsize]
    by_cases hi : i < bucketCount
    · rw [if_pos hi, if_pos hi, Array.getElem?_eq_getElem (hsize.symm ▸ hi)]
      rfl
    · rw [if_neg hi, if_neg hi, Array.getElem?_eq_none (by omega)]
  exact congrArg Histogram.mk hcounts

/-- **Buckets keep order and size.** Every deviation has its bucket in a histogram, whatever was
counted there before, and a greater one has no lower bucket. A midpoint is off by a 32nd of the
deviation at most, so up to 31 it is the deviation. Midpoints rise with their buckets, fit the word
of a deviation, and lie in the bucket they stand for. -/
theorem buckets_keep_order_and_size :
    (∀ d : Int64, bucketOf d < bucketCount) ∧
      (∀ deviations : List Int64,
        (deviations.foldl Histogram.record .empty).counts.size = bucketCount) ∧
      (∀ d e : Int64, d ≤ e → bucketOf d ≤ bucketOf e) ∧
      (∀ d : Int64, 0 ≤ d → 32 * ((midpoint (bucketOf d) : Int) - d.toInt).natAbs ≤ d.toInt ∧
        (d < 32 → midpoint (bucketOf d) = d.toInt)) ∧
      (∀ b c : Nat, b < c → c < bucketCount → midpoint b < midpoint c) ∧
      ∀ b < bucketCount, (Int64.ofNat (midpoint b)).toInt = midpoint b ∧
        bucketOf (Int64.ofNat (midpoint b)) = b := by
  refine ⟨Histogram.bucketOf_lt, ?_, ?_, ?_, ?_, ?_⟩
  · intro deviations
    rw [Histogram.size_foldl_record]
    simp [Histogram.empty]
  · intro d e h
    exact bucketOf_mono h
  · intro d h
    have hclose := midpoint_bucketOf_close h
    refine ⟨hclose, ?_⟩
    intro hlow
    have hlt : d.toInt < 32 := Int64.lt_iff_toInt_lt.1 hlow
    omega
  · intro b c h _
    exact midpoint_strictMono h
  · intro b h
    have hword := toInt_ofNat_midpoint h
    refine ⟨hword, ?_⟩
    rw [bucketOf, hword, Int.toNat_natCast, bucketOfNat_midpoint]

/-- The largest deviation is in the last bucket, whose midpoint is off by a 32nd of it at most; 31
is the last deviation of which nothing is left out. -/
theorem last_bucket_holds_the_largest :
    bucketOf Int64.maxValue = 959 ∧ (31 : Int64) ≤ 32 ∧ bucketOf 31 ≤ bucketOf 32 ∧
      (0 : Int64) ≤ Int64.maxValue ∧
      32 * ((midpoint (bucketOf Int64.maxValue) : Int) - Int64.maxValue.toInt).natAbs
        ≤ Int64.maxValue.toInt ∧
      (0 : Int64) ≤ 31 ∧ (31 : Int64) < 32 ∧ midpoint (bucketOf 31) = (31 : Int64).toInt ∧
      958 < 959 ∧ 959 < bucketCount ∧ midpoint 958 < midpoint 959 ∧
      bucketOf (Int64.ofNat (midpoint 959)) = 959 := by
  obtain ⟨_, _, hmono, hclose, hrise, hback⟩ := buckets_keep_order_and_size
  have hlast : 959 < bucketCount := by decide
  exact ⟨by decide, by decide, hmono 31 32 (by decide), by decide,
    (hclose Int64.maxValue (by decide)).1, by decide, by decide,
    (hclose 31 (by decide)).2 (by decide), by decide, hlast, hrise 958 959 (by decide) hlast,
    (hback 959 hlast).2⟩

end Telemetry.Latency
