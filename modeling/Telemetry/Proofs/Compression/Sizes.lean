import Telemetry.Compression.Packing
import Telemetry.Proofs.Compression.Dictionary
import Telemetry.Proofs.Compression.RunLength

/-!
# How long forms and results get

A compressed form is longer than its input only by the bytes that have to be escaped: a marker takes
one byte more (`RunLength.length_compress_le`), a byte from `80` on two
(`Dictionary.length_compress_le`). What a stream decompresses to is bounded by the length of the
stream, also where no compressor made it: a descriptor of three bytes stands for at most 255
(`RunLength.length_decompress_le`), a copy for at most 18 (`Dictionary.length_decompress_le`). The
machines earn these by the byte, and put them out with the last byte of a token: `Rationed` counts
what was put out and what is still due, and a step of either machine keeps that count
(`RunLength.rationed_feed`, `Dictionary.rationed_feed`), whatever the byte is.
-/

namespace Telemetry.Compression

namespace RunLength

/-! ## Runs -/

theorem length_encodeLiteral (v : UInt8) : (encodeLiteral v).length = 1 + [v].count marker := by
  by_cases hv : v = marker
  · simp [encodeLiteral, hv]
  · simp [encodeLiteral, hv]

theorem length_encodeTail_le (v : UInt8) (n : Nat) :
    (encodeTail v n).length ≤ n * (1 + [v].count marker) := by
  unfold encodeTail
  split
  next hmin => exact Nat.le_trans hmin (Nat.le_mul_of_pos_right n (Nat.le_add_right 1 _))
  next =>
    apply Nat.le_of_eq
    rw [List.length_flatten, List.map_replicate, List.sum_replicate_nat, length_encodeLiteral]

/-- A descriptor is no longer than the run that it names, so a run takes more bytes than it has only
where it is markers, each written as itself. -/
theorem length_encodeRun_le (v : UInt8) (n : Nat) :
    (encodeRun v n).length ≤ n * (1 + [v].count marker) := by
  -- a full run is three bytes, whatever is in it
  have hdescriptors : n / maxRun * 3 ≤ n / maxRun * maxRun * (1 + [v].count marker) :=
    Nat.le_trans (Nat.mul_le_mul_left _ (by decide)) (Nat.le_mul_of_pos_right _ (by omega))
  have htail := length_encodeTail_le v (n % maxRun)
  calc (encodeRun v n).length
      = n / maxRun * 3 + (encodeTail v (n % maxRun)).length := by simp [encodeRun]
    _ ≤ n / maxRun * maxRun * (1 + [v].count marker) + n % maxRun * (1 + [v].count marker) :=
        Nat.add_le_add hdescriptors htail
    _ = n * (1 + [v].count marker) := by rw [← Nat.add_mul, Nat.div_add_mod']

theorem length_add_count_replicate (v : UInt8) (n : Nat) :
    (List.replicate n v).length + (List.replicate n v).count marker
      = n * (1 + [v].count marker) := by
  by_cases hv : v = marker
  · simp [hv, Nat.mul_two]
  · simp [hv, List.count_replicate]

theorem length_encodeRuns_le (rs : List (UInt8 × Nat)) :
    (rs.flatMap fun (v, n) => encodeRun v n).length
      ≤ (expand rs).length + (expand rs).count marker := by
  induction rs with
  | nil => exact Nat.zero_le _
  | cons r rs ih =>
      obtain ⟨v, n⟩ := r
      have hrun := length_encodeRun_le v n
      rw [← length_add_count_replicate] at hrun
      simp only [expand, List.flatMap_cons, List.length_append, List.count_append] at ih ⊢
      omega

theorem length_compress_le (bs : Bytes) : (compress bs).length ≤ bs.length + bs.count marker := by
  have h := length_encodeRuns_le (runs bs)
  rwa [expand_runs] at h

/-- What the bytes of an unfinished token have earned. -/
def Position.due : Position → Nat
  | .token => 0
  | .marked => 85
  | .counted _ => 170

theorem rationed_feed :
    Rationed Decoder.feed (fun d => d.output.toList) (fun d => d.position.due) 85 := by
  rintro ⟨output, position⟩ b
  cases position with
  | token =>
      by_cases hb : b = marker
      · simp [Decoder.feed, hb, Position.due]
      · simp [Decoder.feed, hb, Position.due]
  | marked =>
      by_cases hb : b = 0
      · simp [Decoder.feed, hb, Position.due]
      · simp [Decoder.feed, hb, Position.due]
  | counted n =>
      have hcount : n.toNat < 256 := n.toNat_lt
      simp only [Decoder.feed, Position.due, Array.length_toList, Array.size_append,
        Array.size_replicate]
      omega

theorem length_decompress_le (stream : Bytes) :
    (decompress stream).length ≤ 85 * stream.length :=
  rationed_feed.length_le rfl rfl stream

end RunLength

namespace Dictionary

/-! ## Copies -/

theorem and_flag_eq_zero_iff (v : UInt8) : v &&& flag = 0 ↔ ¬ 0x80 ≤ v := by
  obtain ⟨v⟩ := v
  revert v
  decide +kernel

theorem length_encode_literal (v : UInt8) :
    (Token.literal v).encode.length = 1 + 2 * [v].countP (0x80 ≤ ·) := by
  by_cases hv : 0x80 ≤ v
  · simp [Token.encode, and_flag_eq_zero_iff, hv]
  · simp [Token.encode, and_flag_eq_zero_iff, hv]

/-- A token that is cut off adds its own form to those still to come. -/
theorem length_scan_push (t : Token) (skip : Nat) (behind ahead : Bytes) :
    ((scan skip behind (#[].push t) ahead).toList.flatMap Token.encode).length
      = t.encode.length + ((scan skip behind #[] ahead).toList.flatMap Token.encode).length := by
  rw [scan_done, List.flatMap_append, List.length_append]
  simp

/-- A copy is three bytes and stands for at least as many: the one at the cursor and those that are
skipped after it. -/
theorem length_scan_le (ahead : Bytes) :
    ∀ (skip : Nat) (behind : Bytes), skip ≤ ahead.length →
      ((scan skip behind #[] ahead).toList.flatMap Token.encode).length + skip
        ≤ ahead.length + 2 * ahead.countP (0x80 ≤ ·) := by
  induction ahead with
  | nil =>
      intro skip behind hskip
      simpa [scan] using hskip
  | cons b ahead ih =>
      intro skip behind hskip
      have hcount : (b :: ahead).countP (0x80 ≤ ·)
          = [b].countP (0x80 ≤ ·) + ahead.countP (0x80 ≤ ·) := by
        rw [← List.countP_append, List.singleton_append]
      rw [List.length_cons] at hskip ⊢
      cases skip with
      | succ skip =>
          -- the byte at the cursor belongs to the copy just written
          have hgo := ih skip (b :: behind) (by omega)
          rw [scan]
          omega
      | zero =>
          rw [scan]
          split
          next m hm =>
            have hfits := longestMatch_fits hm
            have hmin : 3 ≤ m.length := hfits.min_le
            have hahead : m.length ≤ ahead.length + 1 := hfits.le_ahead
            -- three bytes are written and at least as many skipped
            have hgo := ih (m.length - 1) (b :: behind) (by omega)
            have hcopy : (Token.copy m).encode.length = 3 := rfl
            rw [length_scan_push, hcopy]
            omega
          next =>
            have hgo := ih 0 (b :: behind) (Nat.zero_le _)
            rw [length_scan_push, length_encode_literal]
            omega

theorem length_compress_le (bs : Bytes) :
    (compress bs).length ≤ bs.length + 2 * bs.countP (0x80 ≤ ·) :=
  length_scan_le bs 0 [] (Nat.zero_le _)

theorem size_copyBack (offset count : Nat) (output : Array UInt8) :
    (copyBack offset count output).size = output.size + count := by
  induction count generalizing output with
  | zero => rfl
  | succ count ih =>
      rw [copyBack, ih, Array.size_push]
      omega

/-- What the bytes of an unfinished token have earned. -/
def Position.due : Position → Nat
  | .token => 0
  | .flagged _ => 6
  | .offsetRead .. => 12
  | .stopped => 0

theorem rationed_feed :
    Rationed Decoder.feed (fun d => d.output.toList) (fun d => d.position.due) 6 := by
  rintro ⟨output, position⟩ b
  cases position with
  | token =>
      by_cases hb : b &&& flag = 0
      · simp [Decoder.feed, hb, Position.due]
      · simp [Decoder.feed, hb, Position.due]
  | flagged first => simp [Decoder.feed, Position.due]
  | offsetRead first second =>
      have hlength : (b &&& 0x0F).toNat ≤ 15 := Nat.and_le_right
      dsimp only [Decoder.feed]
      split
      next => simp [Position.due]
      next =>
        split
        next =>
          simp only [Position.due]
          omega
        next =>
          simp only [Array.length_toList, size_copyBack, Position.due, minMatch]
          omega
  | stopped => simp [Decoder.feed, Position.due]

theorem length_decompress_le (stream : Bytes) :
    (decompress stream).length ≤ 6 * stream.length :=
  rationed_feed.length_le rfl rfl stream

end Dictionary

theorem Codec.length_decompress_le (c : Codec) (stream : Bytes) :
    (c.decompress stream).length ≤ 85 * stream.length := by
  cases c with
  | stored => exact Nat.le_mul_of_pos_left _ (by decide)
  | runLength => exact RunLength.length_decompress_le stream
  | dictionary =>
      exact Nat.le_trans (Dictionary.length_decompress_le stream)
        (Nat.mul_le_mul_right _ (by decide))

/-- Whatever codec a byte names, it makes at most 85 bytes of each. -/
theorem length_le_of_decompressWithId {stream bs : Bytes} {id : UInt8}
    (h : decompressWithId stream id = .ok bs) : bs.length ≤ 85 * stream.length := by
  unfold decompressWithId at h
  cases hcodec : Codec.ofId id with
  | error e =>
      rw [hcodec] at h
      cases h
  | ok c =>
      rw [hcodec] at h
      cases h
      exact c.length_decompress_le stream

end Telemetry.Compression
