import Telemetry.Proofs.Compression.Sizes
import Telemetry.Proofs.Frame.Restoring

/-!
# How large frames are

Packing only makes frames smaller. A frame is packed exactly if the builder packs, the plain frame
is large enough and a codec is chosen for its body. Then the byte that names the codec is more than
paid for, the size that the header declares is that of the frame, and nothing else in the header
changes but the kind (`packed_frames_are_smaller`).

Restoring makes frames larger, and by no more than a codec can: at most 85 bytes for each packed
one, whoever made the frame (`expansion_is_bounded`).
-/

namespace Telemetry.Frame

/-! ## Packed frames -/

theorem drop_bytes (f : Raw) : f.bytes.drop 20 = f.body :=
  List.drop_left' (Header.length_encode f.header)

/-- A codec saves more than the byte that names it. -/
theorem length_packed_lt {f : Raw} (h : (Compression.pack f.body).codec ≠ .stored) :
    f.packed.bytes.length < f.bytes.length := by
  have hlarge := (Compression.codec_pack_ne_stored_iff.1 h).1
  have hsmaller := Compression.length_pack_lt h
  rw [length_bytes, length_bytes]
  simp only [Raw.packed, List.length_cons]
  omega

/-- A frame beside the plain frame of the same request: what its header says, when it is compressed,
and that it is smaller then and the plain frame otherwise. -/
structure PackedFrom (packing : Bool) (threshold : Nat) (plain frame : Bytes)
    (plainHeader header : Header) : Prop where
  plain_decoded : Header.decode plain = .ok plainHeader
  decoded : Header.decode frame = .ok header
  size_eq : header.totalSize.toNat = frame.length
  count_eq : header.variableCount = plainHeader.variableCount
  timestamp_eq : header.timestamp = plainHeader.timestamp
  sequence_eq : header.sequence = plainHeader.sequence
  compressed_iff : header.kind = .compressed ↔ packing = true ∧ threshold ≤ plain.length ∧
    (Compression.pack (plain.drop 20)).codec ≠ .stored
  length_lt : header.kind = .compressed → frame.length < plain.length
  eq_plain : header.kind ≠ .compressed → frame = plain

/-- A frame that was laid out and is packed. -/
theorem packedFrom_packed {f : Raw} {vs : List Variable} (h : f.Carries vs) {threshold : Nat}
    (hsize : threshold ≤ f.bytes.length) (hcodec : (Compression.pack f.body).codec ≠ .stored) :
    PackedFrom true threshold f.bytes f.packed.bytes f.header f.packed.header where
  plain_decoded := by simpa using decode_header_of_carries h []
  decoded := decode_header_packed h hcodec
  size_eq := totalSize_packed h hcodec
  count_eq := rfl
  timestamp_eq := rfl
  sequence_eq := rfl
  compressed_iff := by
    rw [drop_bytes]
    exact ⟨fun _ => ⟨rfl, hsize, hcodec⟩, fun _ => rfl⟩
  length_lt := fun _ => length_packed_lt hcodec
  eq_plain := fun hkind => absurd rfl hkind

/-- A frame that was laid out and stays plain. -/
theorem packedFrom_plain {f : Raw} {vs : List Variable} (h : f.Carries vs)
    (hkind : f.header.kind ≠ .compressed) {packing : Bool} {threshold : Nat}
    (hnot : ¬ (packing = true ∧ threshold ≤ f.bytes.length ∧
      (Compression.pack f.body).codec ≠ .stored)) :
    PackedFrom packing threshold f.bytes f.bytes f.header f.header where
  plain_decoded := by simpa using decode_header_of_carries h []
  decoded := by simpa using decode_header_of_carries h []
  size_eq := by rw [length_bytes, h.size]
  count_eq := rfl
  timestamp_eq := rfl
  sequence_eq := rfl
  compressed_iff := by
    rw [drop_bytes]
    exact ⟨fun hc => absurd hc hkind, fun hp => absurd hp hnot⟩
  length_lt := fun hc => absurd hc hkind
  eq_plain := fun _ => rfl

theorem packedFrom_of_carries {f : Raw} {vs : List Variable} (h : f.Carries vs)
    (hkind : f.header.kind ≠ .compressed) (packing : Bool) :
    ∃ header, PackedFrom packing (packingThreshold f.header.kind) f.bytes
      (if packing then f.pack else f).bytes f.header header := by
  have hsize : f.header.totalSize.toNat = f.bytes.length := by rw [length_bytes, h.size]
  cases packing with
  | false => exact ⟨_, packedFrom_plain h hkind (by simp)⟩
  | true =>
      rw [if_pos rfl, pack_eq, hsize]
      split
      next hpacked => exact ⟨_, packedFrom_packed h hpacked.1 hpacked.2⟩
      next hnot => exact ⟨_, packedFrom_plain h hkind fun hp => hnot hp.2⟩

/-- The size from which the frame of a request is large enough to be packed. -/
def Request.threshold : Request → Nat
  | single .. => 128
  | batch .. => 256

theorem packingThreshold_kind (q : Request) : packingThreshold q.kind = q.threshold := by
  cases q with
  | single v now => rfl
  | batch vs now => rfl

/-- **Packing only makes frames smaller.** Where a builder answers a request with a frame, a plain
builder with the same number answers it too. The frame is compressed exactly if its builder packs,
the plain frame has at least 128 bytes for a single variable or 256 for a batch, and a codec is
chosen for the body of the plain frame. Then it is smaller than the plain frame, and else it is the
plain frame. Its header can be read, declares its length, and agrees with that of the plain frame on
count, time and number. -/
theorem packed_frames_are_smaller (b b' : Builder) (q : Request) (frame : Bytes)
    (h : b.answer q = (.ok frame, b')) :
    ∃ plain plainHeader header,
      (Builder.plain b.sequence).answer q = (.ok plain, .plain (b.sequence + 1)) ∧
      PackedFrom b.packing q.threshold plain frame plainHeader header := by
  rw [Builder.answer_eq_build] at h
  obtain ⟨f, hlay, rfl, rfl⟩ := build_eq_ok h
  obtain ⟨hcarries, hkind, -, -⟩ := layOut_eq_ok hlay
  have hplain : (Builder.plain b.sequence).answer q = (.ok f.bytes, .plain (b.sequence + 1)) := by
    have hsame : (Builder.plain b.sequence).layOut q.kind q.entries q.now = .ok f := hlay
    rw [Builder.answer_eq_build, Builder.build, hsame]
    rfl
  obtain ⟨header, hpacked⟩ :=
    packedFrom_of_carries hcarries (hkind ▸ q.kind_ne_compressed) b.packing
  rw [hkind, packingThreshold_kind] at hpacked
  exact ⟨f.bytes, f.header, header, hplain, hpacked⟩

/-- A plain frame of 128 bytes, most of them zeros, is just large enough to be packed. -/
theorem frame_at_threshold_is_smaller :
    let b : Builder := ⟨7, true⟩
    let q : Request := .single ⟨"a", .uint8, List.replicate 92 0, 0⟩ 1700
    let frame := Raw.bytes ⟨⟨1, .compressed, 1, 32, 1700, 7⟩,
      [1, 1, 0, 2, 92, 0xFF, 11, 0, 97, 0xFF, 92, 0]⟩
    b.answer q = (.ok frame, ⟨8, true⟩) ∧
      ∃ plain plainHeader header,
        (Builder.plain 7).answer q = (.ok plain, .plain 8) ∧
        PackedFrom true 128 plain frame plainHeader header := by
  intro b q frame
  have h : b.answer q = (.ok frame, ⟨8, true⟩) := by decide +kernel
  exact ⟨h, packed_frames_are_smaller b ⟨8, true⟩ q frame h⟩

/-! ## Restored frames -/

/-- A compressed frame that is restored names a codec, and each byte after that comes to at most 85
bytes. -/
theorem length_restored_le {bs : Bytes} {header : Header} {restored : Restored}
    (hdecode : Header.decode bs = .ok header) (hkind : header.kind = .compressed)
    (h : restore bs = .ok restored) :
    21 ≤ header.totalSize.toNat ∧
      restored.bytes.length ≤ 20 + 85 * (header.totalSize.toNat - 21) := by
  rcases restore_eq_ok_iff.1 h with ⟨other, hother, hplain, -⟩ | ⟨other, vs, hunpacks, -, rfl⟩
  · cases hdecode.symm.trans hother
    exact absurd hkind hplain
  · cases hdecode.symm.trans hunpacks.decoded
    refine ⟨hunpacks.codec_lt, ?_⟩
    have hbody := Compression.length_le_of_decompressWithId hunpacks.unpacked
    rw [List.length_drop, List.length_take, Nat.min_eq_left hunpacks.size_le] at hbody
    rw [length_bytes]
    exact Nat.add_le_add_left hbody 20

/-- **Sizes are bounded.** A compressed form by runs is longer than its payload by no more than the
markers in it, and one by copies by no more than two bytes for each byte from `80` on. Any stream,
malformed or not, gives at most 85 bytes for each of its own by runs and 6 by copies. So a frame
that declares a compressed body, whoever made it, is restored to at most 20 bytes and 85 for each
packed one, if it is restored at all. -/
theorem expansion_is_bounded :
    (∀ bs, (Compression.RunLength.compress bs).length ≤ bs.length + bs.count 0xFF) ∧
    (∀ bs, (Compression.Dictionary.compress bs).length
      ≤ bs.length + 2 * bs.countP (0x80 ≤ ·)) ∧
    (∀ stream, (Compression.RunLength.decompress stream).length ≤ 85 * stream.length) ∧
    (∀ stream, (Compression.Dictionary.decompress stream).length ≤ 6 * stream.length) ∧
    ∀ bs header restored, Header.decode bs = .ok header → header.kind = .compressed →
      restore bs = .ok restored →
      21 ≤ header.totalSize.toNat ∧
        restored.bytes.length ≤ 20 + 85 * (header.totalSize.toNat - 21) := by
  refine ⟨Compression.RunLength.length_compress_le, Compression.Dictionary.length_compress_le,
    Compression.RunLength.length_decompress_le, Compression.Dictionary.length_decompress_le, ?_⟩
  intro bs header restored hdecode hkind h
  exact length_restored_le hdecode hkind h

/-- A frame of 32 bytes is restored to 136; 955 would be the most. -/
theorem long_run_is_bounded :
    let bs := Raw.bytes ⟨⟨1, .compressed, 1, 32, 1700, 7⟩,
      [1, 1, 0, 2, 100, 0xFF, 11, 0, 97, 0xFF, 100, 0]⟩
    let restored : Restored :=
      ⟨Raw.bytes ⟨⟨1, .batch, 1, 136, 1700, 7⟩, spelled ⟨"a", .uint8, List.replicate 100 0, 0⟩⟩,
        false⟩
    restore bs = .ok restored ∧ restored.bytes.length = 136 ∧
      restored.bytes.length ≤ 20 + 85 * (32 - 21) := by
  intro bs restored
  have hdecode : Header.decode bs = .ok ⟨1, .compressed, 1, 32, 1700, 7⟩ := by decide +kernel
  have h : restore bs = .ok restored := by decide +kernel
  have hlength : restored.bytes.length = 136 := by decide +kernel
  exact ⟨h, hlength, (expansion_is_bounded.2.2.2.2 bs _ restored hdecode rfl h).2⟩

end Telemetry.Frame
