import Telemetry.Proofs.Frame.Numbering

/-!
# What restoring accepts

A compressed frame is taken apart into its header, the byte that names a codec and the packed body
(`Unpacks`). It is restored exactly if the body that the codec makes is variables spelled out to the
last byte that go into one frame, and then to the batch of these variables (`restore_eq_ok_iff`). So
whatever bytes a restored frame came from, it can be decoded and is restored to itself
(`restored_frames_decode`).

The batch counts the variables that it holds. The number that the compressed frame declared is not
looked at, and a stream of tokens ends where it is cut short, so a body may lack variables that were
declared (`shortened_body_is_restored`); that it ends within a variable is noticed
(`restored_bodies_are_whole_variables`).
-/

namespace Telemetry.Frame

/-! ## Unpacked bodies -/

/-- The batch of some variables, with the version, the time and the number of a header. -/
def Header.batchOf (h : Header) (vs : List Variable) : Raw where
  header := { h with
    kind := .batch
    variableCount := UInt16.ofNat vs.length
    totalSize := UInt32.ofNat (frameSize vs) }
  body := vs.flatMap spelled

theorem frameSize_eq (vs : List Variable) :
    frameSize vs = Header.size + (vs.flatMap spelled).length := by
  rw [length_flatMap_spelled]
  rfl

theorem rebuild_eq_ok_iff {header : Header} {body : Bytes} {raw : Raw} :
    rebuild header body = .ok raw ↔
      ∃ vs, Encodable vs ∧ body = vs.flatMap spelled ∧ raw = header.batchOf vs := by
  constructor
  · intro h
    unfold rebuild at h
    cases hparse : parseBody body with
    | error e => simp [hparse, bind, Except.bind] at h
    | ok vs =>
      obtain ⟨hfits, rfl⟩ := parseBody_eq_ok_iff.1 hparse
      simp only [hparse, bind, Except.bind, ← frameSize_eq] at h
      split at h
      next => cases h
      next hcount =>
        split at h
        next => cases h
        next hsize =>
          cases h
          exact ⟨vs, ⟨Nat.le_of_not_lt hcount, hfits, Nat.le_of_not_lt hsize⟩, rfl, rfl⟩
  · rintro ⟨vs, hvs, rfl, rfl⟩
    have hparse := parseBody_eq_ok_iff.2 ⟨hvs.fits, rfl⟩
    have hcount : ¬ vs.length ≥ UInt16.size := Nat.not_lt.2 hvs.count_le
    have hsize : ¬ frameSize vs ≥ UInt32.size := Nat.not_lt.2 hvs.size_le
    unfold rebuild
    simp only [hparse, bind, Except.bind, ← frameSize_eq, if_neg hcount, if_neg hsize]
    rfl

theorem batchOf_carries {h : Header} {vs : List Variable} (hversion : h.version = 1)
    (hvs : Encodable vs) : (h.batchOf vs).Carries vs where
  version := hversion
  count := by
    have := hvs.count_le
    simp only [Header.batchOf, UInt16.toNat_ofNat']
    omega
  size := by
    have := hvs.size_le
    have hbody : Header.size + (h.batchOf vs).body.length = frameSize vs := (frameSize_eq vs).symm
    rw [hbody]
    simp only [Header.batchOf, UInt32.toNat_ofNat']
    omega
  body := parseBody_eq_ok_iff.2 ⟨hvs.fits, rfl⟩

/-! ## Taking a compressed frame apart -/

/-- A compressed frame and the body in it: the codec is named after the header, and makes the body
of the bytes from there to the end of the frame. -/
structure Unpacks (bs : Bytes) (header : Header) (body : Bytes) : Prop where
  decoded : Header.decode bs = .ok header
  kind_eq : header.kind = .compressed
  codec_lt : 20 < header.totalSize.toNat
  size_le : header.totalSize.toNat ≤ bs.length
  unpacked : Compression.decompressWithId ((bs.take header.totalSize.toNat).drop 21)
    (bs.getD 20 0) = .ok body

theorem drop_take_eq_cons {bs : Bytes} {total : Nat} (hcodec : 20 < total)
    (hsize : total ≤ bs.length) :
    (bs.take total).drop 20 = bs.getD 20 0 :: (bs.take total).drop 21 := by
  rw [drop_eq_getD_cons (by rw [List.length_take]; omega)]
  simp [List.getD_eq_getElem?_getD, hcodec]

theorem restore_of_unpacks {bs : Bytes} {header : Header} {body : Bytes}
    (h : Unpacks bs header body) :
    restore bs = (rebuild header body).map fun raw => ⟨raw.bytes, false⟩ := by
  have hcut : bs.split? header.totalSize.toNat
      = some (bs.take header.totalSize.toNat, bs.drop header.totalSize.toNat) := by
    rw [Bytes.split?_eq, if_pos h.size_le]
  have hcodec : (bs.take header.totalSize.toNat).drop Header.size = _ :=
    drop_take_eq_cons h.codec_lt h.size_le
  unfold restore
  simp only [h.decoded, bind, Except.bind, h.kind_eq, ne_eq, not_true_eq_false, if_false, hcut,
    hcodec, h.unpacked]
  cases rebuild header body <;> rfl

/-- Restoring gets as far as the body only if the frame is there in full and names a codec. -/
theorem unpacks_of_restore {bs : Bytes} {header : Header} {restored : Restored}
    (hdecode : Header.decode bs = .ok header) (hkind : header.kind = .compressed)
    (h : restore bs = .ok restored) : ∃ body, Unpacks bs header body := by
  simp only [restore, hdecode, bind, Except.bind, hkind, ne_eq, not_true_eq_false, if_false,
    Bytes.split?_eq] at h
  by_cases hsize : header.totalSize.toNat ≤ bs.length
  · simp only [if_pos hsize] at h
    by_cases hcodec : 20 < header.totalSize.toNat
    · rw [show Header.size = 20 from rfl, drop_take_eq_cons hcodec hsize] at h
      dsimp only at h
      split at h
      next => cases h
      next body hbody => exact ⟨body, hdecode, hkind, hcodec, hsize, hbody⟩
    · have hnil : (bs.take header.totalSize.toNat).drop Header.size = [] :=
        List.drop_eq_nil_of_le (by rw [List.length_take, Header.size]; omega)
      rw [hnil] at h
      cases h
  · simp only [if_neg hsize] at h
    cases h

theorem restore_eq_ok_iff {bs : Bytes} {restored : Restored} :
    restore bs = .ok restored ↔
      (∃ header, Header.decode bs = .ok header ∧ header.kind ≠ .compressed ∧
        restored = ⟨bs, true⟩) ∨
      ∃ header vs, Unpacks bs header (vs.flatMap spelled) ∧ Encodable vs ∧
        restored = ⟨(header.batchOf vs).bytes, false⟩ := by
  constructor
  · intro h
    cases hdecode : Header.decode bs with
    | error e => simp [restore, hdecode, bind, Except.bind] at h
    | ok header =>
      by_cases hkind : header.kind = .compressed
      · obtain ⟨body, hunpacks⟩ := unpacks_of_restore hdecode hkind h
        rw [restore_of_unpacks hunpacks] at h
        cases hrebuild : rebuild header body with
        | error e => simp [hrebuild, Except.map] at h
        | ok raw =>
          obtain ⟨vs, hvs, rfl, rfl⟩ := rebuild_eq_ok_iff.1 hrebuild
          rw [hrebuild] at h
          cases h
          exact .inr ⟨header, vs, hunpacks, hvs, rfl⟩
      · rw [restore, hdecode] at h
        simp only [bind, Except.bind, if_pos hkind] at h
        cases h
        exact .inl ⟨header, rfl, hkind, rfl⟩
  · rintro (⟨header, hdecode, hkind, rfl⟩ | ⟨header, vs, hunpacks, hvs, rfl⟩)
    · rw [restore, hdecode]
      simp only [bind, Except.bind, if_pos hkind]
      rfl
    · rw [restore_of_unpacks hunpacks, rebuild_eq_ok_iff.2 ⟨vs, hvs, rfl, rfl⟩]
      rfl

/-! ## What is restored can be decoded -/

theorem decode_batchOf {h : Header} {vs : List Variable} (hversion : h.version = 1)
    (hvs : Encodable vs) : decode (h.batchOf vs).bytes = .ok ⟨(h.batchOf vs).header, vs⟩ := by
  simpa using decode_of_carries (batchOf_carries hversion hvs) (by simp [Header.batchOf]) []

/-- A batch is what a compressed frame was restored to: it has the version, the time and the number
of that frame, and its own size and count. -/
structure Decoded.Replaces (f : Decoded) (header : Header) (bytes : Bytes) : Prop where
  version_eq : f.header.version = header.version
  kind_eq : f.header.kind = .batch
  count_eq : f.header.variableCount.toNat = f.entries.length
  size_eq : f.header.totalSize.toNat = bytes.length
  timestamp_eq : f.header.timestamp = header.timestamp
  sequence_eq : f.header.sequence = header.sequence

theorem Unpacks.version_eq {bs body : Bytes} {header : Header} (h : Unpacks bs header body) :
    header.version = 1 := (Header.decode_eq_ok_iff.1 h.decoded).1

/-- **Restoring is sound.** A frame that does not declare a compressed body comes back as it is. One
that does comes back as the header of a batch and the unpacked body, is decoded under that header,
and is not changed by restoring it once more. -/
theorem restored_frames_decode (bs : Bytes) (restored : Restored) (h : restore bs = .ok restored) :
    ∃ header, Header.decode bs = .ok header ∧
      (header.kind ≠ .compressed → restored.bytes = bs) ∧
      (header.kind = .compressed →
        Unpacks bs header (restored.bytes.drop 20) ∧
        ∃ f, decode restored.bytes = .ok f ∧ f.Replaces header restored.bytes) ∧
      restore restored.bytes = .ok ⟨restored.bytes, true⟩ := by
  rcases restore_eq_ok_iff.1 h with
    ⟨header, hdecode, hkind, rfl⟩ | ⟨header, vs, hunpacks, hvs, rfl⟩
  · exact ⟨header, hdecode, fun _ => rfl, fun hc => absurd hc hkind, h⟩
  · have hcarries := batchOf_carries hunpacks.version_eq hvs
    have hbody : (header.batchOf vs).bytes.drop 20 = vs.flatMap spelled :=
      List.drop_left' (Header.length_encode _)
    refine ⟨header, hunpacks.decoded, fun hk => absurd hunpacks.kind_eq hk, fun _ => ⟨?_, ?_⟩, ?_⟩
    · rw [hbody]
      exact hunpacks
    · refine ⟨_, decode_batchOf hunpacks.version_eq hvs, rfl, rfl, hcarries.count, ?_, rfl, rfl⟩
      rw [length_bytes]
      exact hcarries.size
    · exact restore_of_carries hcarries (by simp [Header.batchOf])

/-- A frame with a run of eight zeros in its body, and a byte behind its end. -/
theorem restored_run_decodes :
    let bs := Raw.bytes ⟨⟨1, .compressed, 1, 33, 1700, 7⟩,
      [1, 1, 0, 2, 1, 0, 0, 0, 0xFF, 8, 0, 97, 7]⟩ ++ [0xAA]
    let restored : Restored :=
      ⟨Raw.bytes ⟨⟨1, .batch, 1, 37, 1700, 7⟩, spelled ⟨"a", .uint8, [7], 0⟩⟩, false⟩
    restore bs = .ok restored ∧
      ∃ header, Header.decode bs = .ok header ∧
        (header.kind ≠ .compressed → restored.bytes = bs) ∧
        (header.kind = .compressed →
          Unpacks bs header (restored.bytes.drop 20) ∧
          ∃ f, decode restored.bytes = .ok f ∧ f.Replaces header restored.bytes) ∧
        restore restored.bytes = .ok ⟨restored.bytes, true⟩ := by
  intro bs restored
  have h : restore bs = .ok restored := by decide +kernel
  exact ⟨h, restored_frames_decode bs restored h⟩

/-! ## The declared count -/

/-- A frame that declares two variables. Its tokens are the bytes of one, and the first byte of a
token of three bytes. -/
def shortened : Bytes :=
  Raw.bytes ⟨⟨1, .compressed, 2, 39, 1700, 7⟩, 2 :: (spelled ⟨"a", .bool, [1], 0⟩ ++ [0x80])⟩

/-- Of the two variables that were declared, one is restored. -/
theorem shortened_body_is_restored :
    ∃ header restored f, Header.decode shortened = .ok header ∧ header.kind = .compressed ∧
      restore shortened = .ok restored ∧ decode restored.bytes = .ok f ∧
      header.variableCount.toNat = 2 ∧ f.entries = [⟨"a", .bool, [1], 0⟩] := by
  refine ⟨⟨1, .compressed, 2, 39, 1700, 7⟩,
    ⟨Raw.bytes ⟨⟨1, .batch, 1, 37, 1700, 7⟩, spelled ⟨"a", .bool, [1], 0⟩⟩, false⟩,
    ⟨⟨1, .batch, 1, 37, 1700, 7⟩, [⟨"a", .bool, [1], 0⟩]⟩, ?_⟩
  decide +kernel

/-- Whatever number of variables a compressed frame declares, it is restored to the same, or refused
for the same reason. -/
theorem restore_declaring {bs : Bytes} {header : Header} (hdecode : Header.decode bs = .ok header)
    (hkind : header.kind = .compressed) (count : UInt16) :
    restore ({ header with variableCount := count }.encode ++ bs.drop 20) = restore bs := by
  obtain ⟨hversion, hsize, rest, rfl⟩ := Header.decode_eq_ok_iff.1 hdecode
  have hrest (h : Header) : (h.encode ++ rest).drop Header.size = rest :=
    List.drop_left' (Header.length_encode h)
  rw [show (20 : Nat) = Header.size from rfl, hrest]
  generalize hheader : ({ header with variableCount := count } : Header) = header'
  have hdecode' : Header.decode (header'.encode ++ rest) = .ok header' :=
    Header.decode_append header' rest (hheader ▸ hversion) (hheader ▸ hsize)
  have hkind' : header'.kind = .compressed := hheader ▸ hkind
  have htotal : header'.totalSize = header.totalSize := by rw [← hheader]
  have hrebuild : rebuild header' = rebuild header := by
    rw [← hheader]
    rfl
  -- both frames are cut at the same place, and only the bytes behind the header are looked at
  unfold restore
  simp only [hdecode, hdecode', bind, Except.bind, hkind, hkind', ne_eq, not_true_eq_false,
    if_false, htotal, hrebuild, Bytes.split?_eq, List.length_append, Header.length_encode]
  by_cases hlong : header.totalSize.toNat ≤ Header.size + rest.length
  · simp only [if_pos hlong, List.drop_take, hrest]
  · simp only [if_neg hlong]

/-- **A compressed frame is not restored in part.** The restored frame holds the variables that its
unpacked body spells out, to the last byte, and says how many they are. A frame whose codec is known
is refused only where the body is not whole variables, such as one that ends within a variable, or
where they do not go into one frame; the number that it declared has no part in that. -/
theorem restored_bodies_are_whole_variables (bs : Bytes) (header : Header)
    (hdecode : Header.decode bs = .ok header) (hkind : header.kind = .compressed) :
    (∀ restored, restore bs = .ok restored →
      ∃ f, decode restored.bytes = .ok f ∧ Unpacks bs header (f.entries.flatMap spelled) ∧
        f.header.variableCount.toNat = f.entries.length) ∧
    (∀ body, Unpacks bs header body →
      ((∃ restored, restore bs = .ok restored) ↔
        ∃ vs, Encodable vs ∧ body = vs.flatMap spelled)) ∧
    ∀ count, restore ({ header with variableCount := count }.encode ++ bs.drop 20)
      = restore bs := by
  refine ⟨?_, ?_, restore_declaring hdecode hkind⟩
  · intro restored h
    rcases restore_eq_ok_iff.1 h with ⟨other, hother, hplain, -⟩ | ⟨other, vs, hunpacks, hvs, rfl⟩
    · cases hdecode.symm.trans hother
      exact absurd hkind hplain
    · cases hdecode.symm.trans hunpacks.decoded
      exact ⟨_, decode_batchOf hunpacks.version_eq hvs, hunpacks,
        (batchOf_carries hunpacks.version_eq hvs).count⟩
  · intro body hunpacks
    rw [restore_of_unpacks hunpacks]
    constructor
    · rintro ⟨restored, h⟩
      cases hrebuild : rebuild header body with
      | error e => simp [hrebuild, Except.map] at h
      | ok raw =>
        obtain ⟨vs, hvs, hbody, -⟩ := rebuild_eq_ok_iff.1 hrebuild
        exact ⟨vs, hvs, hbody⟩
    · rintro ⟨vs, hvs, rfl⟩
      rw [rebuild_eq_ok_iff.2 ⟨vs, hvs, rfl, rfl⟩]
      exact ⟨_, rfl⟩

/-- The shortened body ends where its first variable does. -/
theorem shortened_body_is_whole :
    ∃ header, Header.decode shortened = .ok header ∧ header.kind = .compressed ∧
      (∀ restored, restore shortened = .ok restored →
        ∃ f, decode restored.bytes = .ok f ∧
          Unpacks shortened header (f.entries.flatMap spelled) ∧
          f.header.variableCount.toNat = f.entries.length) ∧
      (∀ body, Unpacks shortened header body →
        ((∃ restored, restore shortened = .ok restored) ↔
          ∃ vs, Encodable vs ∧ body = vs.flatMap spelled)) ∧
      ∀ count, restore ({ header with variableCount := count }.encode ++ shortened.drop 20)
        = restore shortened := by
  have hdecode : Header.decode shortened = .ok ⟨1, .compressed, 2, 39, 1700, 7⟩ := by
    decide +kernel
  exact ⟨_, hdecode, rfl, restored_bodies_are_whole_variables shortened _ hdecode rfl⟩

end Telemetry.Frame
