import Telemetry.Compression.RunLength
import Telemetry.Proofs.Compression.Streaming

/-!
# Run-length compression loses nothing

The decompressor is fed the compressed form byte by byte, so the round trip is one statement about
the machine: fed the written form of an input between two tokens, it appends that input and stands
between two tokens again (`feed_compress`). The statement speaks of any output that is already
there, so written forms may follow one another (`run_length_lossless`). It is put together from the
three forms a run is written in: an escaped or plain byte, a full descriptor, and the piece that is
left.
-/

namespace Telemetry.Compression.RunLength

/-! ## Runs -/

/-- What a list of runs stands for. -/
def expand (rs : List (UInt8 × Nat)) : Bytes := rs.flatMap fun (v, n) => List.replicate n v

/-- One more byte in front of a list of runs, as `runs` does it. -/
theorem expand_runs_cons (b : UInt8) (bs : Bytes) :
    expand (runs (b :: bs)) = b :: expand (runs bs) := by
  rw [runs, List.foldr_cons, ← runs]
  cases hr : runs bs with
  | nil => simp [expand]
  | cons r rest =>
      obtain ⟨v, n⟩ := r
      by_cases hb : b = v
      · subst hb
        simp [expand, List.replicate_succ]
      · simp [expand, hb]

/-- The runs of an input stand for the input. -/
theorem expand_runs (bs : Bytes) : expand (runs bs) = bs := by
  induction bs with
  | nil => rfl
  | cons b bs ih => rw [expand_runs_cons, ih]

/-! ## The machine on written forms -/

/-- The machine between two tokens, with some output. -/
def Decoder.at (output : Bytes) : Decoder := ⟨output.toArray, .token⟩

theorem feed_literal (output : Bytes) (v : UInt8) :
    (encodeLiteral v).foldl Decoder.feed (.at output) = .at (output ++ [v]) := by
  by_cases hv : v = marker
  · subst hv
    simp [encodeLiteral, Decoder.at, Decoder.feed]
  · simp [encodeLiteral, Decoder.at, Decoder.feed, hv]

theorem feed_literals (output : Bytes) (v : UInt8) (n : Nat) :
    (List.replicate n (encodeLiteral v)).flatten.foldl Decoder.feed (.at output)
      = .at (output ++ List.replicate n v) := by
  induction n generalizing output with
  | zero => simp
  | succ n ih =>
      rw [List.replicate_succ, List.flatten_cons, List.foldl_append, feed_literal, ih]
      simp [List.replicate_succ]

/-- A descriptor names a count that is not zero, which is what tells it from an escaped marker. -/
theorem feed_descriptor (output : Bytes) (v : UInt8) (n : Nat) (hpos : 0 < n) (hle : n ≤ maxRun) :
    [marker, UInt8.ofNat n, v].foldl Decoder.feed (.at output)
      = .at (output ++ List.replicate n v) := by
  simp only [maxRun] at hle
  have hcount : (UInt8.ofNat n).toNat = n := by
    rw [UInt8.toNat_ofNat']
    omega
  have hne : UInt8.ofNat n ≠ 0 := by
    intro h
    rw [h] at hcount
    exact absurd hcount (by simp; omega)
  simp [Decoder.at, Decoder.feed, hne, hcount]

theorem feed_descriptors (output : Bytes) (v : UInt8) (k : Nat) :
    (List.replicate k [marker, UInt8.ofNat maxRun, v]).flatten.foldl Decoder.feed (.at output)
      = .at (output ++ List.replicate (k * maxRun) v) := by
  induction k generalizing output with
  | zero => simp
  | succ k ih =>
      rw [List.replicate_succ, List.flatten_cons, List.foldl_append,
        feed_descriptor output v maxRun (by decide) (Nat.le_refl _), ih, List.append_assoc,
        List.replicate_append_replicate]
      congr 3
      rw [Nat.succ_mul, Nat.add_comm]

theorem feed_tail (output : Bytes) (v : UInt8) (n : Nat) (hlt : n < maxRun) :
    (encodeTail v n).foldl Decoder.feed (.at output) = .at (output ++ List.replicate n v) := by
  unfold encodeTail
  split
  · rename_i hmin
    have hpos : 0 < n := Nat.lt_of_lt_of_le (by decide) hmin
    exact feed_descriptor output v n hpos (Nat.le_of_lt hlt)
  · exact feed_literals output v n

/-- A run of any length is put out again. -/
theorem feed_run (output : Bytes) (v : UInt8) (n : Nat) :
    (encodeRun v n).foldl Decoder.feed (.at output) = .at (output ++ List.replicate n v) := by
  have hlt : n % maxRun < maxRun := Nat.mod_lt n (by decide)
  rw [encodeRun, List.foldl_append, feed_descriptors, feed_tail _ v _ hlt, List.append_assoc,
    List.replicate_append_replicate, Nat.div_add_mod']

theorem feed_runs (rs : List (UInt8 × Nat)) (output : Bytes) :
    (rs.flatMap fun (v, n) => encodeRun v n).foldl Decoder.feed (.at output)
      = .at (output ++ expand rs) := by
  induction rs generalizing output with
  | nil => simp [expand]
  | cons r rs ih =>
      rw [List.flatMap_cons, List.foldl_append, feed_run, ih]
      simp [expand]

/-- **Round trip of the machine**: after any output, the written form of an input puts out that
input. -/
theorem feed_compress (output bs : Bytes) :
    (compress bs).foldl Decoder.feed (.at output) = .at (output ++ bs) := by
  rw [compress, feed_runs, expand_runs]

/-- Where the machine, started afresh, ends between two tokens, its output is the result. -/
theorem decompress_eq {form bs : Bytes} (h : form.foldl Decoder.feed (.at []) = .at bs) :
    decompress form = bs := by
  rw [decompress, show Decoder.start = .at [] from rfl, h]
  simp [Decoder.at]

@[simp] theorem decompress_compress (bs : Bytes) : decompress (compress bs) = bs :=
  decompress_eq (feed_compress [] bs)

/-- **Run-length compression is lossless**: an input is restored from its compressed form, and
inputs whose forms are strung together are restored strung together. -/
theorem run_length_lossless :
    (∀ bs : Bytes, decompress (compress bs) = bs) ∧
      ∀ parts : List Bytes, decompress (parts.flatMap compress) = parts.flatten := by
  refine ⟨decompress_compress, ?_⟩
  intro parts
  have hmachine : Restores Decoder.feed Decoder.at compress := feed_compress
  exact decompress_eq (hmachine.flatMap [] parts)

/-- A byte of all ones may open a descriptor, count in it, be its value and stand for itself. And a
run that is cut in two is written otherwise than the whole run. -/
example : compress (List.replicate 256 0xFF) = [0xFF, 0xFF, 0xFF, 0xFF, 0] ∧
    compress [7, 7, 7, 7] = [0xFF, 4, 7] ∧
    [[7, 7], [7, 7]].flatMap compress = [7, 7, 7, 7] := by decide +kernel

end Telemetry.Compression.RunLength
