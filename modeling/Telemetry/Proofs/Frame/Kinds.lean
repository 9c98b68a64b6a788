import Telemetry.Proofs.Frame.Grammar
import Telemetry.Proofs.Frame.Packing

/-!
# What the kind of a frame says

A single frame is meant to hold one variable, and a builder makes no other. Decoding does not ask
for it. The number of variables is held against the number that is declared, and the kind only
against the compressed one, so any frame that is decoded is also decoded under the other kind
(`decode_relabelled`). A single frame then holds one variable if and only if it declares one
(`single_frames_carry_one_iff`); there are others, and the smallest of them is a header alone
(`empty_single_frame_is_decoded`).
-/

namespace Telemetry.Frame

/-- What is decoded begins with a sound frame that holds its variables. -/
theorem exists_carries_of_decode {bs : Bytes} {f : Decoded} (h : decode bs = .ok f) :
    ∃ body rest, bs = Raw.bytes ⟨f.header, body⟩ ++ rest ∧
      Raw.Carries ⟨f.header, body⟩ f.entries := by
  obtain ⟨hheader, -, ⟨rest, front, hlength, rfl, hbody⟩, hcount⟩ := decode_eq_ok h
  obtain ⟨hversion, hcover, hbegins⟩ := Header.decode_eq_ok_iff.1 hheader
  -- the declared size covers the header, so the header lies in the part that was cut off
  obtain ⟨body, rfl⟩ : f.header.encode <+: front := by
    refine List.prefix_of_prefix_length_le hbegins (List.prefix_append front rest) ?_
    rw [Header.length_encode, hlength]
    exact hcover
  rw [List.length_append, Header.length_encode] at hlength
  rw [List.drop_left' (Header.length_encode f.header)] at hbody
  exact ⟨body, rest, rfl, hversion, hcount, hlength.symm, hbody⟩

/-- The kind has no part in whether a frame is sound. -/
theorem Raw.Carries.relabelled {f : Raw} {vs : List Variable} (h : f.Carries vs)
    (kind : PayloadKind) : Raw.Carries { f with header := { f.header with kind } } vs where
  version := h.version
  count := h.count
  size := h.size
  body := h.body

/-- A frame that is decoded is decoded under the other kind as well, into the same variables. -/
theorem decode_relabelled {bs : Bytes} {f : Decoded} (h : decode bs = .ok f) {kind : PayloadKind}
    (hkind : kind ≠ .compressed) :
    decode (bs.set 1 kind.code) = .ok { f with header := { f.header with kind } } := by
  obtain ⟨body, rest, rfl, hcarries⟩ := exists_carries_of_decode h
  exact decode_of_carries (hcarries.relabelled kind) hkind rest

/-! ## Single frames -/

/-- The number of variables that a header declares lies behind its version and its kind. -/
theorem field_count (header : Header) (rest : Bytes) :
    field 2 2 (header.encode ++ rest) = Bytes.ofNat 2 header.variableCount.toNat := by
  have := field_append 2 2 [header.version, header.kind.code]
    (Bytes.ofNat 2 header.variableCount.toNat)
    (Bytes.ofNat 4 header.totalSize.toNat ++ Bytes.ofNat 8 header.timestamp.toNat ++
      Bytes.ofNat 4 header.sequence.toNat ++ rest) rfl (Bytes.length_ofNat _ _)
  simpa [Header.encode] using this

theorem ofNat_eq_one_iff {n : UInt16} : Bytes.ofNat 2 n.toNat = [1, 0] ↔ n = 1 := by
  constructor
  · intro h
    rw [← Bytes.uint16_ofNat n, h]
    rfl
  · rintro rfl
    rfl

/-- A frame holds one variable if and only if its bytes declare one. -/
theorem length_eq_one_iff {bs : Bytes} {f : Decoded} (h : decode bs = .ok f) :
    f.entries.length = 1 ∧ f.header.variableCount = 1 ↔ field 2 2 bs = [1, 0] := by
  obtain ⟨body, rest, rfl, hcarries⟩ := exists_carries_of_decode h
  have hcount : f.header.variableCount.toNat = f.entries.length := hcarries.count
  rw [Raw.bytes, List.append_assoc, field_count, ofNat_eq_one_iff, ← hcount]
  constructor
  · exact And.right
  · intro hone
    exact ⟨by rw [hone]; rfl, hone⟩

/-- A packed frame has to be restored first. -/
theorem decode_packed_ne_ok {f : Raw} {vs : List Variable} (h : f.Carries vs)
    (hcodec : (Compression.pack f.body).codec ≠ .stored) (g : Decoded) :
    decode f.packed.bytes ≠ .ok g := by
  intro hdecode
  obtain ⟨hheader, hkind, -, -⟩ := decode_eq_ok hdecode
  rw [decode_header_packed h hcodec] at hheader
  injection hheader with hheader
  exact hkind (hheader ▸ rfl)

/-- What is decoded of the frame that a builder made of a single variable is that variable. -/
theorem decode_buildSingle {b b' : Builder} {v : Variable} {now : UInt64} {frame : Bytes}
    {f : Decoded} (hbuild : b.buildSingle v now = (.ok frame, b')) (h : decode frame = .ok f) :
    f.header.kind = .single ∧ f.entries = [v] ∧ f.header.variableCount = 1 := by
  obtain ⟨raw, hlay, rfl, -⟩ := build_eq_ok hbuild
  obtain ⟨hcarries, hkind, -, -⟩ := layOut_eq_ok hlay
  have hplain : (if b.packing then raw.pack else raw) = raw := by
    by_cases hpacking : b.packing = true
    · rw [if_pos hpacking] at h ⊢
      rcases pack_cases raw with hpack | ⟨hcodec, hpack⟩
      · exact hpack
      · rw [hpack] at h
        exact absurd h (decode_packed_ne_ok hcarries hcodec f)
    · exact if_neg hpacking
  have hdecode := decode_of_carries hcarries (by rw [hkind]; decide) []
  rw [hplain] at h
  rw [List.append_nil, h] at hdecode
  injection hdecode with hf
  subst hf
  exact ⟨hkind, rfl, UInt16.toNat_inj.1 hcarries.count⟩

/-- **A single frame holds as many variables as it declares.** It holds one, and declares one, if
and only if its bytes 2 and 3 spell a one; its kind does not enforce it, for whatever is decoded at
all is decoded under either kind. If a builder made the frame of a single variable, then it holds
that variable. -/
theorem single_frames_carry_one_iff (bs : Bytes) (f : Decoded) (h : decode bs = .ok f) :
    (f.header.kind = .single →
      (f.entries.length = 1 ∧ f.header.variableCount = 1 ↔ field 2 2 bs = [1, 0])) ∧
    (∀ kind : PayloadKind, kind ≠ .compressed →
      decode (bs.set 1 kind.code) = .ok { f with header := { f.header with kind } }) ∧
    ∀ (b b' : Builder) v now, b.buildSingle v now = (.ok bs, b') →
      f.header.kind = .single ∧ f.entries = [v] ∧ f.header.variableCount = 1 := by
  refine ⟨?_, ?_, ?_⟩
  · intro _
    exact length_eq_one_iff h
  · intro kind hkind
    exact decode_relabelled h hkind
  · intro b b' v now hbuild
    exact decode_buildSingle hbuild h

/-- A batch of two variables is decoded under the kind of a single frame too; what a builder makes
of one variable holds one. -/
theorem single_frames_of_two_and_of_one :
    let v : Variable := ⟨"a", .uint8, [7], 0⟩
    let batch := Raw.bytes ⟨⟨1, .batch, 2, 54, 1700, 7⟩, spelled v ++ spelled v⟩
    let single := Raw.bytes ⟨⟨1, .single, 2, 54, 1700, 7⟩, spelled v ++ spelled v⟩
    let made := Raw.bytes ⟨⟨1, .single, 1, 37, 1700, 7⟩, spelled v⟩
    let two : Decoded := ⟨⟨1, .single, 2, 54, 1700, 7⟩, [v, v]⟩
    let one : Decoded := ⟨⟨1, .single, 1, 37, 1700, 7⟩, [v]⟩
    decode batch = .ok { two with header := { two.header with kind := .batch } } ∧
      decode single = .ok two ∧
      (two.entries.length = 1 ∧ two.header.variableCount = 1 ↔ field 2 2 single = [1, 0]) ∧
      (Builder.plain 7).buildSingle v 1700 = (.ok made, .plain 8) ∧ decode made = .ok one ∧
      one.header.kind = .single ∧ one.entries = [v] ∧ one.header.variableCount = 1 := by
  intro v batch single made two one
  have hbatch : decode batch = .ok { two with header := { two.header with kind := .batch } } := by
    decide +kernel
  have hsingle : decode single = .ok two :=
    (single_frames_carry_one_iff batch _ hbatch).2.1 .single (by decide)
  have hbuild : (Builder.plain 7).buildSingle v 1700 = (.ok made, .plain 8) := by decide +kernel
  have hmade : decode made = .ok one := by decide +kernel
  exact ⟨hbatch, hsingle, (single_frames_carry_one_iff single two hsingle).1 rfl, hbuild, hmade,
    (single_frames_carry_one_iff made one hmade).2.2 _ _ v 1700 hbuild⟩

/-- A header alone that names the kind of a single frame is decoded. -/
theorem empty_single_frame_is_decoded :
    ∃ f, decode [1, 0, 0, 0, 20, 0, 0, 0, 8, 7, 6, 5, 4, 3, 2, 1, 7, 0, 0, 0] = .ok f ∧
      f.header.kind = .single ∧ ¬ (f.entries.length = 1 ∧ f.header.variableCount = 1) := by
  refine ⟨⟨⟨1, .single, 0, 20, 0x0102030405060708, 7⟩, []⟩, ?_⟩
  decide +kernel

end Telemetry.Frame
