import Telemetry.Proofs.Compression.Packing

/-!
# Streams that are cut

A byte that a decompressor is fed only adds to its output: within a token nothing is put out, and
the byte that ends a token puts out what the token stands for (`RunLength.onlyAdds_feed`,
`Dictionary.onlyAdds_feed`). Later tokens may copy from the output but never change it. So
wherever a stream is cut, and whether or not a compressor made it, what is left of it gives the
beginning of what the whole stream gives (`cut_streams_give_prefixes`).
-/

namespace Telemetry.Compression

namespace RunLength

theorem onlyAdds_feed : OnlyAdds Decoder.feed fun d => d.output.toList := by
  rintro ⟨output, position⟩ b
  cases position with
  | token =>
      by_cases hb : b = marker
      · simp [Decoder.feed, hb]
      · simp [Decoder.feed, hb]
  | marked =>
      by_cases hb : b = 0
      · simp [Decoder.feed, hb]
      · simp [Decoder.feed, hb]
  | counted n => simp [Decoder.feed]

theorem decompress_take (stream : Bytes) (k : Nat) :
    decompress (stream.take k) <+: decompress stream :=
  onlyAdds_feed.take .start stream k

end RunLength

namespace Dictionary

theorem prefix_copyBack (offset count : Nat) (output : Array UInt8) :
    output.toList <+: (copyBack offset count output).toList := by
  induction count generalizing output with
  | zero => exact List.prefix_refl _
  | succ count ih =>
      have hpush (v : UInt8) : output.toList <+: (output.push v).toList := by simp
      exact (hpush _).trans (ih _)

theorem onlyAdds_feed : OnlyAdds Decoder.feed fun d => d.output.toList := by
  rintro ⟨output, position⟩ b
  cases position with
  | token =>
      by_cases hb : b &&& flag = 0
      · simp [Decoder.feed, hb]
      · simp [Decoder.feed, hb]
  | flagged first => simp [Decoder.feed]
  | offsetRead first second =>
      dsimp only [Decoder.feed]
      split
      next => simp
      next =>
        split
        next => exact List.prefix_refl _
        next => exact prefix_copyBack _ _ output
  | stopped => exact List.prefix_refl _

theorem decompress_take (stream : Bytes) (k : Nat) :
    decompress (stream.take k) <+: decompress stream :=
  onlyAdds_feed.take .start stream k

end Dictionary

theorem Codec.decompress_take (c : Codec) (stream : Bytes) (k : Nat) :
    c.decompress (stream.take k) <+: c.decompress stream := by
  cases c with
  | stored => exact List.take_prefix k stream
  | runLength => exact RunLength.decompress_take stream k
  | dictionary => exact Dictionary.decompress_take stream k

/-- **Damage makes nothing up.** Any stream that is cut anywhere, malformed or not, decompresses to
a prefix of what the whole stream decompresses to, and so the compressed form of a payload, when it
is cut, to a prefix of the payload. -/
theorem cut_streams_give_prefixes (c : Codec) :
    (∀ (stream : Bytes) (k : Nat), c.decompress (stream.take k) <+: c.decompress stream) ∧
      ∀ (bs : Bytes) (k : Nat), c.decompress ((c.compress bs).take k) <+: bs := by
  refine ⟨c.decompress_take, ?_⟩
  intro bs k
  have hcut := c.decompress_take (c.compress bs) k
  rwa [c.decompress_compress] at hcut

/-- A cut within an escaped byte loses that byte; a stream whose copy reaches too far back ends
there, cut or not. -/
example :
    let stream : Bytes := [7, 0x80, 0, 0xC8, 0x80, 9, 0, 5]
    Dictionary.decompress (stream.take 3) = [7] ∧
    Dictionary.decompress (stream.take 4) = [7, 0xC8] ∧
      Dictionary.decompress stream = [7, 0xC8] := by decide

end Telemetry.Compression
