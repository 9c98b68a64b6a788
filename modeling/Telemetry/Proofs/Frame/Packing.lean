import Telemetry.Frame.Restoring
import Telemetry.Proofs.Compression.Packing
import Telemetry.Proofs.Frame.Body

/-!
# Packed frames are restored

A frame that holds variables is restored from its packed form byte for byte, except that it comes
back as a batch (`restore_pack`). Count and size are not carried through but taken anew from the
unpacked body, so the argument needs the body to be read back, not only unpacked. From there on two
builders are run side by side, one that may pack and be told to start or stop packing, and one that
never packs (`packing_run_restores_to_plain`).

## How the proof goes

`build_cases` says what building comes to: an error with the builder as it was, or a frame with its
number taken. It is the one lemma on which everything about builders rests, here and in the modules
that follow. Two builders side by side agree on the next number, call after call
(`BuilderPair.inStep_run`), so they lay out the same frame or fail alike, and all that is left is a
single frame: it was kept, or it was packed with a codec (`pack_cases`) and then count and size fit
their fields again, since they did before (`rebuild_packed`).
-/

namespace Telemetry.Frame

/-! ## One frame -/

/-- The same frame as a batch. -/
def Raw.asBatch (f : Raw) : Raw := { f with header := { f.header with kind := .batch } }

theorem asBatch_of_batch {f : Raw} (h : f.header.kind = .batch) : f.asBatch = f := by
  obtain ⟨⟨version, kind, count, total, time, sequence⟩, body⟩ := f
  cases h
  rfl

/-- As a batch, a frame differs in the byte that names its kind. -/
theorem bytes_asBatch (f : Raw) : f.asBatch.bytes = f.bytes.set 1 PayloadKind.batch.code := rfl

/-- The frame that carries the packed body of another. -/
def Raw.packed (f : Raw) : Raw :=
  { header := { f.header with
      kind := .compressed
      totalSize := UInt32.ofNat (Header.size + 1 + (Compression.pack f.body).bytes.length) }
    body := (Compression.pack f.body).codec.id :: (Compression.pack f.body).bytes }

/-- A frame is packed if it is large enough and a codec is chosen for its body. That a batch has to
get smaller than nine tenths asks for nothing more, for no codec is chosen otherwise. -/
theorem pack_eq (f : Raw) : f.pack =
    if packingThreshold f.header.kind ≤ f.header.totalSize.toNat ∧
      (Compression.pack f.body).codec ≠ .stored then f.packed else f := by
  unfold Raw.pack
  dsimp only
  by_cases hsize : f.header.totalSize.toNat < packingThreshold f.header.kind
  · rw [if_pos hsize, if_neg (fun h => Nat.not_le_of_lt hsize h.1)]
  · rw [if_neg hsize]
    by_cases hcodec : (Compression.pack f.body).codec = .stored
    · rw [if_pos hcodec, if_neg (fun h => h.2 hcodec)]
    · have hpays :
          Compression.paysOff (Compression.pack f.body).bytes.length f.body.length = true :=
        decide_eq_true (Compression.length_pack_lt hcodec)
      have hboth : packingThreshold f.header.kind ≤ f.header.totalSize.toNat ∧
          (Compression.pack f.body).codec ≠ .stored := ⟨Nat.le_of_not_lt hsize, hcodec⟩
      rw [if_neg hcodec, if_pos hboth, hpays, Bool.not_true, Bool.and_false]
      rfl

/-- Packing keeps a frame, or packs its body with a codec. -/
theorem pack_cases (f : Raw) :
    f.pack = f ∨ (Compression.pack f.body).codec ≠ .stored ∧ f.pack = f.packed := by
  rw [pack_eq]
  split
  next h => exact .inr ⟨h.2, rfl⟩
  next => exact .inl rfl

/-- A codec is only chosen where the packed frame is the smaller one, so its size fits. -/
theorem totalSize_packed {f : Raw} {vs : List Variable} (h : f.Carries vs)
    (hcodec : (Compression.pack f.body).codec ≠ .stored) :
    f.packed.header.totalSize.toNat = f.packed.bytes.length := by
  have hsmaller := Compression.length_pack_lt hcodec
  have hsize := h.size
  have hlt := f.header.totalSize.toNat_lt
  rw [length_bytes]
  simp only [Raw.packed, UInt32.toNat_ofNat', List.length_cons]
  omega

/-- The header of a packed frame is read back. -/
theorem decode_header_packed {f : Raw} {vs : List Variable} (h : f.Carries vs)
    (hcodec : (Compression.pack f.body).codec ≠ .stored) :
    Header.decode f.packed.bytes = .ok f.packed.header := by
  have hsize : Header.size ≤ f.packed.header.totalSize.toNat := by
    rw [totalSize_packed h hcodec, length_bytes]
    exact Nat.le_add_right _ _
  exact Header.decode_append f.packed.header f.packed.body h.version hsize

/-- Count and size, taken anew from the body, are those that the frame had. -/
theorem rebuild_packed {f : Raw} {vs : List Variable} (h : f.Carries vs) :
    rebuild f.packed.header f.body = .ok f.asBatch := by
  have hcount : ¬ vs.length ≥ UInt16.size := by
    rw [← h.count]
    exact Nat.not_le_of_lt f.header.variableCount.toNat_lt
  have hsize : ¬ Header.size + f.body.length ≥ UInt32.size := by
    rw [← h.size]
    exact Nat.not_le_of_lt f.header.totalSize.toNat_lt
  have hcount' : UInt16.ofNat vs.length = f.header.variableCount := by
    rw [← h.count, UInt16.ofNat_toNat]
  have hsize' : UInt32.ofNat (Header.size + f.body.length) = f.header.totalSize := by
    rw [← h.size, UInt32.ofNat_toNat]
  unfold rebuild
  simp only [h.body, bind, Except.bind, if_neg hcount, if_neg hsize, hcount', hsize']
  rfl

theorem restore_packed {f : Raw} {vs : List Variable} (h : f.Carries vs)
    (hcodec : (Compression.pack f.body).codec ≠ .stored) :
    restore f.packed.bytes = .ok ⟨f.asBatch.bytes, false⟩ := by
  have hkind : f.packed.header.kind = .compressed := rfl
  have hcut : f.packed.bytes.split? f.packed.header.totalSize.toNat
      = some (f.packed.bytes, []) :=
    Bytes.split?_eq_some_iff.2 ⟨(totalSize_packed h hcodec).symm, (List.append_nil _).symm⟩
  have hdrop : f.packed.bytes.drop Header.size
      = (Compression.pack f.body).codec.id :: (Compression.pack f.body).bytes := by
    rw [Raw.bytes, ← Header.length_encode f.packed.header, List.drop_left]
    rfl
  unfold restore
  rw [decode_header_packed h hcodec]
  simp only [bind, Except.bind, hkind, ne_eq, not_true_eq_false, if_false, hcut, hdrop,
    Compression.decompressWithId_pack, rebuild_packed h]
  rfl

/-- A frame that is not compressed comes back as it is. -/
theorem restore_of_carries {f : Raw} {vs : List Variable} (h : f.Carries vs)
    (hkind : f.header.kind ≠ .compressed) : restore f.bytes = .ok ⟨f.bytes, true⟩ := by
  have hheader := decode_header_of_carries h []
  rw [List.append_nil] at hheader
  unfold restore
  rw [hheader]
  simp only [bind, Except.bind, if_pos hkind]
  rfl

/-! ## What a builder makes -/

/-- What building comes to: an error, and the builder is as it was; or the frame that was laid out,
packed or not, and its number is taken. -/
theorem build_cases (b : Builder) (kind : PayloadKind) (vs : List Variable) (now : UInt64) :
    (∃ e, b.layOut kind vs now = .error e ∧ b.build kind vs now = (.error e, b)) ∨
    ∃ f, b.layOut kind vs now = .ok f ∧
      b.build kind vs now = (.ok (if b.packing then f.pack else f).bytes,
        { b with sequence := b.sequence + 1 }) := by
  unfold Builder.build
  cases b.layOut kind vs now with
  | error e => exact .inl ⟨e, rfl, rfl⟩
  | ok f => exact .inr ⟨f, rfl, rfl⟩

theorem build_eq_ok {b b' : Builder} {kind : PayloadKind} {vs : List Variable} {now : UInt64}
    {frame : Bytes} (h : b.build kind vs now = (.ok frame, b')) :
    ∃ f : Raw, b.layOut kind vs now = .ok f ∧
      frame = (if b.packing then f.pack else f).bytes ∧
      b' = { b with sequence := b.sequence + 1 } := by
  rcases build_cases b kind vs now with ⟨e, -, herror⟩ | ⟨f, hf, hmade⟩
  · rw [herror] at h
    cases h
  · rw [hmade] at h
    cases h
    exact ⟨f, hf, rfl, rfl⟩

/-- A frame that declares a compressed body. -/
def DeclaresCompressed (frame : Bytes) : Prop :=
  ∃ header, Header.decode frame = .ok header ∧ header.kind = .compressed

theorem declaresCompressed_iff {frame : Bytes} {header : Header}
    (h : Header.decode frame = .ok header) :
    DeclaresCompressed frame ↔ header.kind = .compressed := by
  constructor
  · rintro ⟨header', h', hkind⟩
    rw [h] at h'
    cases h'
    exact hkind
  · intro hkind
    exact ⟨header, h, hkind⟩

/-- What is made of a frame that was laid out, packed or not, restores to the frame itself or, if it
was packed, to the frame as a batch. -/
theorem restore_pack {f : Raw} {vs : List Variable} (h : f.Carries vs)
    (hkind : f.header.kind ≠ .compressed) (packing : Bool) :
    ∃ restored, restore (if packing then f.pack else f).bytes = .ok restored ∧
      (DeclaresCompressed (if packing then f.pack else f).bytes →
        restored.bytes = f.asBatch.bytes) ∧
      (¬ DeclaresCompressed (if packing then f.pack else f).bytes → restored.bytes = f.bytes) := by
  have hheader := decode_header_of_carries h []
  rw [List.append_nil] at hheader
  have hplain : ¬ DeclaresCompressed f.bytes := fun hd =>
    hkind ((declaresCompressed_iff hheader).1 hd)
  cases packing with
  | false =>
      exact ⟨_, restore_of_carries h hkind, fun hd => absurd hd hplain, fun _ => rfl⟩
  | true =>
      simp only [if_true]
      -- a builder that packs may still have kept the frame
      rcases pack_cases f with hsame | ⟨hcodec, hpacked⟩
      · rw [hsame]
        exact ⟨_, restore_of_carries h hkind, fun hd => absurd hd hplain, fun _ => rfl⟩
      · have hdeclares : DeclaresCompressed f.packed.bytes :=
          (declaresCompressed_iff (decode_header_packed h hcodec)).2 rfl
        rw [hpacked]
        exact ⟨_, restore_packed h hcodec, fun _ => rfl, fun hn => absurd hdeclares hn⟩

/-! ## Two builders side by side -/

/-- A call on a builder. -/
inductive Builder.Call where
  | single (v : Variable) (now : UInt64)
  | batch (vs : List Variable) (now : UInt64)
  /-- From now on bodies are packed, or are not. -/
  | setPacking (on : Bool)
  deriving DecidableEq, Repr, Inhabited

/-- A builder that may pack, and one that never does. -/
structure BuilderPair where
  packing : Builder
  plain : Builder
  deriving DecidableEq, Repr, Inhabited

namespace BuilderPair

/-- Two builders that start with the same number. -/
def start (sequence : UInt32) (on : Bool) : BuilderPair := ⟨⟨sequence, on⟩, .plain sequence⟩

/-- Makes a call: an encoding call on both builders, a switch on the one that may pack. -/
def call (p : BuilderPair) : Builder.Call → BuilderPair
  | .single v now => ⟨(p.packing.buildSingle v now).2, (p.plain.buildSingle v now).2⟩
  | .batch vs now => ⟨(p.packing.buildBatch vs now).2, (p.plain.buildBatch vs now).2⟩
  | .setPacking on => { p with packing := { p.packing with packing := on } }

/-- One call after another. -/
def run (p : BuilderPair) (calls : List Builder.Call) : BuilderPair := calls.foldl call p

/-- The two builders give the next frame the same number, and one of them does not pack. -/
structure InStep (p : BuilderPair) : Prop where
  sequence : p.packing.sequence = p.plain.sequence
  plain : p.plain.packing = false

end BuilderPair

/-- Two attempts to build come to the same: the same error, or two frames of which the first
restores to `image` of the first and the second. -/
def ComeToTheSame (image : Bytes → Bytes → Bytes → Prop) :
    Except FrameError Bytes → Except FrameError Bytes → Prop
  | .error e, .error e' => e = e'
  | .ok frame, .ok plain =>
    ∃ restored, restore frame = .ok restored ∧ image frame plain restored.bytes
  | _, _ => False

/-- A batch is restored byte for byte. -/
def BatchImage (_frame plain restored : Bytes) : Prop := restored = plain

/-- A single variable is restored byte for byte, but as a batch if its frame was compressed. -/
def SingleImage (frame plain restored : Bytes) : Prop :=
  (DeclaresCompressed frame → restored = plain.set 1 PayloadKind.batch.code) ∧
    (¬ DeclaresCompressed frame → restored = plain)

namespace BuilderPair

theorem layOut_congr {b b' : Builder} (h : b.sequence = b'.sequence) (kind : PayloadKind)
    (vs : List Variable) (now : UInt64) : b.layOut kind vs now = b'.layOut kind vs now := by
  unfold Builder.layOut
  rw [h]

/-- Builders that agree on the next number fail alike or succeed alike, and agree on the next number
again. -/
theorem sequence_build {b b' : Builder} (h : b.sequence = b'.sequence) (kind : PayloadKind)
    (vs : List Variable) (now : UInt64) :
    (b.build kind vs now).2.sequence = (b'.build kind vs now).2.sequence := by
  unfold Builder.build
  rw [layOut_congr h]
  cases b'.layOut kind vs now with
  | error e => exact h
  | ok f => exact congrArg (· + 1) h

theorem packing_build (b : Builder) (kind : PayloadKind) (vs : List Variable) (now : UInt64) :
    (b.build kind vs now).2.packing = b.packing := by
  rcases build_cases b kind vs now with ⟨e, -, h⟩ | ⟨f, -, h⟩
  · rw [h]
  · rw [h]

theorem inStep_call {p : BuilderPair} (h : p.InStep) (c : Builder.Call) : (p.call c).InStep := by
  cases c with
  | single v now =>
      exact ⟨sequence_build h.sequence .single [v] now,
        (packing_build p.plain .single [v] now).trans h.plain⟩
  | batch vs now =>
      exact ⟨sequence_build h.sequence .batch vs now,
        (packing_build p.plain .batch vs now).trans h.plain⟩
  | setPacking on => exact ⟨h.sequence, h.plain⟩

theorem inStep_run {p : BuilderPair} (h : p.InStep) (calls : List Builder.Call) :
    (p.run calls).InStep := by
  induction calls generalizing p with
  | nil => exact h
  | cons c calls ih => exact ih (inStep_call h c)

/-- Whatever builders in step are told to build comes to the same. -/
theorem comeToTheSame {p : BuilderPair} (h : p.InStep) {kind : PayloadKind}
    (hkind : kind ≠ .compressed) (vs : List Variable) (now : UInt64)
    {image : Bytes → Bytes → Bytes → Prop}
    (himage : ∀ (f : Raw) (frame restored : Bytes), f.header.kind = kind →
      (DeclaresCompressed frame → restored = f.asBatch.bytes) →
      (¬ DeclaresCompressed frame → restored = f.bytes) → image frame f.bytes restored) :
    ComeToTheSame image (p.packing.build kind vs now).1 (p.plain.build kind vs now).1 := by
  unfold Builder.build
  rw [layOut_congr h.sequence, h.plain]
  cases hf : p.plain.layOut kind vs now with
  | error e => exact rfl
  | ok f =>
      obtain ⟨hcarries, hk, -, -⟩ := layOut_eq_ok hf
      obtain ⟨restored, hrestore, hpacked, hplain⟩ :=
        restore_pack hcarries (hk ▸ hkind) p.packing.packing
      exact ⟨restored, hrestore, himage f _ restored.bytes hk hpacked hplain⟩

end BuilderPair

/-- **Packing is invisible behind restoring.** After any run of calls the two builders give the next
frame the same number, and whatever call comes next, single or batch, fails on both with the same
error, or succeeds on both with frames of which the first restores to the second; a single variable
whose frame was compressed comes back as a batch. -/
theorem packing_run_restores_to_plain (sequence : UInt32) (on : Bool)
    (calls : List Builder.Call) :
    let p := (BuilderPair.start sequence on).run calls
    p.packing.sequence = p.plain.sequence ∧
      (∀ v now, ComeToTheSame SingleImage (p.packing.buildSingle v now).1
        (p.plain.buildSingle v now).1) ∧
      ∀ vs now, ComeToTheSame BatchImage (p.packing.buildBatch vs now).1
        (p.plain.buildBatch vs now).1 := by
  intro p
  have hstart : (BuilderPair.start sequence on).InStep := ⟨rfl, rfl⟩
  have hp : p.InStep := BuilderPair.inStep_run hstart calls
  refine ⟨hp.sequence, ?_, ?_⟩
  · intro v now
    refine BuilderPair.comeToTheSame hp (by decide) [v] now ?_
    intro f frame restored _ hpacked hplain
    exact ⟨fun hd => by rw [hpacked hd, bytes_asBatch], hplain⟩
  · intro vs now
    refine BuilderPair.comeToTheSame hp (by decide) vs now ?_
    intro f frame restored hk hpacked hplain
    by_cases hd : DeclaresCompressed frame
    · rw [BatchImage, hpacked hd, asBatch_of_batch hk]
    · exact hplain hd

end Telemetry.Frame
