import Telemetry.Compression.RunLength

/-!
# When an input looks repetitive

Of an input of 64 bytes or more the first 100 are looked at. Each place there at which a byte is
followed by its like is a repetition (`repeats`), and more than 20 percent of the bytes looked at
have to be repetitions. The share is taken in whole percents, and what the division leaves over is
dropped, so an input looks repetitive from 21 percent on (`isRepetitive_iff`).

Where 100 bytes are looked at that comes to the same. Of fewer bytes the share may lie between 20
and 21 percent, at one number of repetitions at most, the least above 20 percent. Then and only then
the threshold is not kept (`threshold_is_kept_iff`). Thirteen repetitions in 64 bytes are such a
number (`thirteen_in_sixty_four_are_missed`).
-/

namespace Telemetry.Compression.RunLength

/-! ## Counting repetitions -/

/-- The places among the first `width` bytes at which a byte is followed by its like. -/
def repeats (width : Nat) (bs : Bytes) : Nat :=
  (List.range (width - 1)).countP fun i => bs[i]? == bs[i + 1]?

theorem repetitions_cons_cons (a b : UInt8) (rest : Bytes) :
    repetitions (a :: b :: rest) = repetitions (b :: rest) + if a == b then 1 else 0 := by
  simp [repetitions, List.countP_cons]

theorem repeats_cons_cons (a b : UInt8) (rest : Bytes) :
    repeats (a :: b :: rest).length (a :: b :: rest)
      = repeats (b :: rest).length (b :: rest) + if a == b then 1 else 0 := by
  simp [repeats, List.range_succ_eq_map, List.countP_cons, List.countP_map, Function.comp_def]

/-- Neighbours that are equal are repetitions, each at its own place. -/
theorem repetitions_eq_repeats (bs : Bytes) : repetitions bs = repeats bs.length bs := by
  induction bs with
  | nil => rfl
  | cons a bs ih =>
    cases bs with
    | nil => rfl
    | cons b rest => rw [repetitions_cons_cons, repeats_cons_cons, ih]

/-- Places in front of a cut are as they were. -/
theorem repeats_take {width bound : Nat} (h : width ≤ bound) (bs : Bytes) :
    repeats width (bs.take bound) = repeats width bs := by
  apply List.countP_congr
  intro i hi
  have hlt : i < width - 1 := List.mem_range.1 hi
  rw [List.getElem?_take_of_lt (by omega), List.getElem?_take_of_lt (by omega)]

/-! ## The threshold -/

/-- A share is more than 20 whole percents when it is 21 percent or more. -/
theorem percents_gt_iff {part whole : Nat} (h : 0 < whole) :
    part * 100 / whole > 20 ↔ 21 * whole ≤ 100 * part := by
  have hle : 21 ≤ part * 100 / whole ↔ 21 * whole ≤ part * 100 := Nat.le_div_iff_mul_le h
  rw [gt_iff_lt, Nat.lt_iff_add_one_le, hle, Nat.mul_comm part]

/-- Between 20 and 21 percent of fewer than 100 there is one number at most, the least above 20
percent; of 100 there is none. -/
theorem between_iff {part whole : Nat} (h : whole ≤ 100) :
    whole < 5 * part ∧ 100 * part < 21 * whole ↔
      whole < 100 ∧ part = whole / 5 + 1 ∧ 100 * part < 21 * whole := by
  omega

/-- An input looks repetitive from 21 percent on. -/
theorem isRepetitive_iff (bs : Bytes) :
    isRepetitive bs = true ↔
      64 ≤ bs.length ∧ 21 * min bs.length 100 ≤ 100 * repeats (min bs.length 100) bs := by
  have hlength : (bs.take 100).length = min bs.length 100 := by
    rw [List.length_take, Nat.min_comm]
  have hcount : repetitions (bs.take 100) = repeats (min bs.length 100) bs := by
    rw [repetitions_eq_repeats, hlength, repeats_take (Nat.min_le_right _ _)]
  simp only [isRepetitive, hlength, hcount, Bool.and_eq_true, decide_eq_true_eq]
  apply and_congr_right
  intro hlong
  exact percents_gt_iff (by omega)

/-- **When the threshold is kept.** An input of 64 bytes or more looks repetitive if and only if the
repetitions are 21 percent or more of the bytes looked at. More than 20 percent is the same, unless
the input has fewer than 100 bytes and its repetitions are the fewest that are more than 20 percent,
but less than 21 percent. -/
theorem threshold_is_kept_iff (bs : Bytes) :
    let sample := min bs.length 100
    let repeated := repeats sample bs
    (isRepetitive bs = true ↔ 64 ≤ bs.length ∧ 21 * sample ≤ 100 * repeated) ∧
      ((isRepetitive bs = true ↔ 64 ≤ bs.length ∧ sample < 5 * repeated) ↔
        ¬ (64 ≤ bs.length ∧ bs.length < 100 ∧ repeated = bs.length / 5 + 1 ∧
          100 * repeated < 21 * bs.length)) := by
  intro sample repeated
  have hanswer : isRepetitive bs = true ↔ 64 ≤ bs.length ∧ 21 * sample ≤ 100 * repeated :=
    isRepetitive_iff bs
  have hbetween : sample < 5 * repeated ∧ 100 * repeated < 21 * sample ↔
      sample < 100 ∧ repeated = sample / 5 + 1 ∧ 100 * repeated < 21 * sample :=
    between_iff (Nat.min_le_right _ _)
  have hsample : sample = min bs.length 100 := rfl
  refine ⟨hanswer, ?_⟩
  rw [hanswer]
  -- 21 percent are more than 20, so the two differ only in between
  by_cases hshort : bs.length < 100
  · rw [Nat.min_eq_left (Nat.le_of_lt hshort)] at hsample
    rw [hsample] at hbetween ⊢
    omega
  · rw [Nat.min_eq_right (Nat.le_of_not_lt hshort)] at hsample
    omega

/-- Of 64 bytes 13 repeat the byte before, which is more than 20 percent, and the input does not
look repetitive. -/
theorem thirteen_in_sixty_four_are_missed :
    let bs : Bytes := List.replicate 14 0 ++ (List.range 50).map fun i => UInt8.ofNat (i + 1)
    bs.length = 64 ∧ repeats 64 bs = 13 ∧ 64 ≤ bs.length ∧
      min bs.length 100 < 5 * repeats (min bs.length 100) bs ∧ isRepetitive bs = false := by
  decide

end Telemetry.Compression.RunLength
