import Telemetry.Compression.Packing
import Telemetry.Proofs.Compression.Dictionary
import Telemetry.Proofs.Compression.RunLength

/-!
# Packing picks the best form and loses nothing

The tests by which a codec is chosen come to one: the smaller of the two forms is kept where it is
below nine tenths of a payload of at least 64 bytes (`pack_eq`). So a form that is kept is the best
there is, and nothing packed is longer than its payload. Whatever codec is chosen, decompressing
with the codec that is named gives the payload back (`packing_picks_the_best`).
-/

namespace Telemetry.Compression

theorem Codec.decompress_compress (c : Codec) (bs : Bytes) : c.decompress (c.compress bs) = bs := by
  cases c with
  | stored => rfl
  | runLength => exact RunLength.decompress_compress bs
  | dictionary => exact Dictionary.decompress_compress bs

/-! ## The smaller form -/

/-- The smaller of the two compressed forms of a payload; of forms of one size the dictionary's. -/
def smaller (bs : Bytes) : Packed :=
  if (RunLength.compress bs).length < (Dictionary.compress bs).length then
    ⟨.runLength, RunLength.compress bs⟩
  else ⟨.dictionary, Dictionary.compress bs⟩

theorem bytes_smaller (bs : Bytes) : (smaller bs).bytes = (smaller bs).codec.compress bs := by
  unfold smaller
  split
  · rfl
  · rfl

theorem length_smaller (bs : Bytes) : (smaller bs).bytes.length
    = min (RunLength.compress bs).length (Dictionary.compress bs).length := by
  unfold smaller
  split
  next hruns => exact (Nat.min_eq_left (Nat.le_of_lt hruns)).symm
  next hcopies => exact (Nat.min_eq_right (Nat.le_of_not_lt hcopies)).symm

theorem codec_smaller_ne_stored (bs : Bytes) : (smaller bs).codec ≠ .stored := by
  unfold smaller
  split
  · simp
  · simp

theorem codec_smaller_eq_dictionary_iff (bs : Bytes) : (smaller bs).codec = .dictionary ↔
    (Dictionary.compress bs).length ≤ (RunLength.compress bs).length := by
  unfold smaller
  split
  next hruns => simp [Nat.not_le_of_lt hruns]
  next hcopies => simp [Nat.le_of_not_lt hcopies]

/-! ## The choice -/

/-- The smaller form of a payload is worth having. -/
def Gains (bs : Bytes) : Prop := 64 ≤ bs.length ∧ 10 * (smaller bs).bytes.length < 9 * bs.length

instance (bs : Bytes) : Decidable (Gains bs) := inferInstanceAs (Decidable (_ ∧ _))

theorem paysOff_eq_true_iff {size plain : Nat} :
    paysOff size plain = true ↔ 10 * size < 9 * plain := by
  rw [paysOff, decide_eq_true_iff, Nat.mul_comm size, Nat.mul_comm plain]

/-- The tests, one after another, keep the smaller form where it is worth having. -/
theorem pack_eq (bs : Bytes) : pack bs = if Gains bs then smaller bs else ⟨.stored, bs⟩ := by
  simp only [pack, Gains, length_smaller, paysOff_eq_true_iff, Bool.and_eq_true, decide_eq_true_eq]
  by_cases hsize : bs.length < minPacked
  · have hsmall : ¬ 64 ≤ bs.length := Nat.not_le_of_lt hsize
    rw [if_pos hsize, if_neg (fun h => hsmall h.1)]
  · have hlarge : 64 ≤ bs.length := Nat.le_of_not_lt hsize
    rw [if_neg hsize, smaller]
    by_cases hruns : (RunLength.compress bs).length < (Dictionary.compress bs).length
    · rw [Nat.min_eq_left (Nat.le_of_lt hruns)]
      by_cases hpays : 10 * (RunLength.compress bs).length < 9 * bs.length
      · rw [if_pos ⟨hruns, hpays⟩, if_pos ⟨hlarge, hpays⟩, if_pos hruns]
      · -- the second test asks nothing about the other form, but a larger form cannot pass it
        have hcopies : ¬ 10 * (Dictionary.compress bs).length < 9 * bs.length := by omega
        rw [if_neg (fun h => hpays h.2), if_neg hcopies, if_neg (fun h => hpays h.2)]
    · rw [Nat.min_eq_right (Nat.le_of_not_lt hruns), if_neg (fun h => hruns h.1), if_neg hruns]
      simp only [hlarge, true_and]

theorem pack_of_gains {bs : Bytes} (h : Gains bs) : pack bs = smaller bs := by
  rw [pack_eq, if_pos h]

theorem pack_of_not_gains {bs : Bytes} (h : ¬ Gains bs) : pack bs = ⟨.stored, bs⟩ := by
  rw [pack_eq, if_neg h]

/-- A codec is only named where it pays off. -/
theorem codec_pack_ne_stored_iff {bs : Bytes} : (pack bs).codec ≠ .stored ↔ Gains bs := by
  by_cases h : Gains bs
  · rw [pack_of_gains h]
    exact ⟨fun _ => h, fun _ => codec_smaller_ne_stored bs⟩
  · rw [pack_of_not_gains h]
    exact ⟨fun hstored => absurd rfl hstored, fun hgains => absurd hgains h⟩

theorem length_pack_lt {bs : Bytes} (h : (pack bs).codec ≠ .stored) :
    (pack bs).bytes.length * 10 < bs.length * 9 := by
  have hgains := codec_pack_ne_stored_iff.1 h
  have hlt := hgains.2
  rw [pack_of_gains hgains]
  omega

/-! ## Unpacking -/

/-- The packed form is the form of the codec that is named. -/
theorem bytes_pack (bs : Bytes) : (pack bs).bytes = (pack bs).codec.compress bs := by
  by_cases h : Gains bs
  · rw [pack_of_gains h, bytes_smaller]
  · rw [pack_of_not_gains h]
    rfl

/-- A payload that is packed and unpacked is the payload. -/
@[simp] theorem unpack_pack (bs : Bytes) : (pack bs).unpack = bs := by
  rw [Packed.unpack, bytes_pack, Codec.decompress_compress]

/-- The byte that names the codec is enough to unpack. -/
theorem decompressWithId_pack (bs : Bytes) :
    decompressWithId (pack bs).bytes (pack bs).codec.id = .ok bs := by
  have h : (pack bs).codec.decompress (pack bs).bytes = bs := unpack_pack bs
  rw [decompressWithId, Codec.ofId_id]
  exact congrArg Except.ok h

/-- **Packing loses nothing, adds nothing and picks the best form.** The byte that names the codec
is enough to give the payload back, and what is packed is no longer than the payload. A codec is
named exactly where the smaller form of a payload of at least 64 bytes is below nine tenths of it.
Then this form is taken, and the dictionary's if it is not the larger one; else the payload stays as
it is. -/
theorem packing_picks_the_best (bs : Bytes) :
    let packed := pack bs
    let least := min (RunLength.compress bs).length (Dictionary.compress bs).length
    decompressWithId packed.bytes packed.codec.id = .ok bs ∧
      packed.bytes.length ≤ bs.length ∧
      (packed.codec ≠ .stored ↔ 64 ≤ bs.length ∧ 10 * least < 9 * bs.length) ∧
      (packed.codec ≠ .stored →
        packed.bytes = packed.codec.compress bs ∧ packed.bytes.length = least ∧
        (packed.codec = .dictionary ↔
          (Dictionary.compress bs).length ≤ (RunLength.compress bs).length)) ∧
      (packed.codec = .stored → packed.bytes = bs) := by
  intro packed least
  have hgains : Gains bs ↔ 64 ≤ bs.length ∧ 10 * least < 9 * bs.length := by
    rw [Gains, length_smaller]
  have hstored (h : packed.codec = .stored) : packed = ⟨.stored, bs⟩ :=
    pack_of_not_gains fun hg => codec_pack_ne_stored_iff.2 hg h
  refine ⟨decompressWithId_pack bs, ?_, codec_pack_ne_stored_iff.trans hgains, ?_, ?_⟩
  · by_cases h : packed.codec = .stored
    · have hsame : packed.bytes = bs := by rw [hstored h]
      exact Nat.le_of_eq (congrArg List.length hsame)
    · have hlt : packed.bytes.length * 10 < bs.length * 9 := length_pack_lt h
      omega
  · intro h
    have hsmaller : packed = smaller bs := pack_of_gains (codec_pack_ne_stored_iff.1 h)
    refine ⟨bytes_pack bs, ?_, ?_⟩
    · rw [hsmaller, length_smaller]
    · rw [hsmaller, codec_smaller_eq_dictionary_iff]
  · intro h
    rw [hstored h]

/-- A long run is the shorter by runs and a long repetition by copies; together they may come to the
same size, and then the dictionary is chosen. -/
example :
    let word : Bytes := [1, 2, 3, 4, 5, 6, 7, 8, 9, 10, 11, 12, 13]
    let bs : Bytes := List.replicate 60 0 ++ word ++ word
    (RunLength.compress bs).length = 29 ∧ (Dictionary.compress bs).length = 29 ∧
      (pack bs).codec = .dictionary := by decide +kernel

end Telemetry.Compression
