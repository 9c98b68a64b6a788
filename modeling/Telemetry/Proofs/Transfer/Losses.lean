import Mathlib.Order.Interval.Finset.Nat
import Telemetry.Proofs.Transfer.Receiving

/-!
# Lost frames are counted

A builder numbers its frames modulo 2^32, and a receiver knows of a frame only by its number. The
frames of a run of calls are read under consecutive numbers, packed or not (`numbered_frames`), so
the gap between two that come in one after the other is the number of frames between them, as long
as that is below the bound from which a gap is taken for a new start (`missing_between`). What the
receiver expects and has counted as lost is, after every arrival, that of the frames that came in so
far (`Followed`); what cannot be read changes neither.

## How the proof goes

`Followed` says the count in a form that needs no list of the missing: those counted as lost, those
that came and the place of the first are together one more than the place of the last. A frame that
comes in adds its gap and itself (`followed_frame`), bytes that cannot be read add nothing
(`followed_noise`), and `followed_arrivals` is the induction on the arrivals. That the places
between the first and the last that did not come are just as many is a fact about growing lists,
used once at the end (`card_left_out`).
-/

namespace Telemetry

/-! ## Numbered frames -/

namespace Frame.Builder

/-- What a call comes to: the frame, if one is made, and the builder after it. -/
def perform (b : Builder) : Call → Option Bytes × Builder
  | .single v now => ((b.buildSingle v now).1.toOption, (b.buildSingle v now).2)
  | .batch vs now => ((b.buildBatch vs now).1.toOption, (b.buildBatch vs now).2)
  | .setPacking on => (none, { b with packing := on })

/-- The frames that calls make, oldest first. -/
def frames (b : Builder) : List Call → List Bytes
  | [] => []
  | c :: calls => (b.perform c).1.toList ++ (b.perform c).2.frames calls

end Frame.Builder

open Telemetry.Frame (Builder)

/-- Bytes can be read as a frame with a number. -/
def Numbered (raw : Bytes) (sequence : UInt32) : Prop :=
  ∃ bytes f, Receiver.read raw = .ok (bytes, f) ∧ f.header.sequence = sequence

/-- A call makes a frame with the builder's number and moves the number on, or does neither. -/
theorem perform_cases (b : Builder) (c : Builder.Call) :
    ((b.perform c).1 = none ∧ (b.perform c).2.sequence = b.sequence) ∨
    ∃ frame, (b.perform c).1 = some frame ∧ Numbered frame b.sequence ∧
      (b.perform c).2.sequence = b.sequence + 1 := by
  have hbuild (kind : Frame.PayloadKind) (vs : List Variable) (now : UInt64)
      (hkind : kind ≠ .compressed) :
      ((b.build kind vs now).1.toOption = none ∧
        (b.build kind vs now).2.sequence = b.sequence) ∨
      ∃ frame, (b.build kind vs now).1.toOption = some frame ∧ Numbered frame b.sequence ∧
        (b.build kind vs now).2.sequence = b.sequence + 1 := by
    rcases Frame.build_cases b kind vs now with ⟨e, -, h⟩ | ⟨f, -, h⟩
    · rw [h]
      exact .inl ⟨rfl, rfl⟩
    · obtain ⟨bytes, header, hread, hsequence⟩ := Receiver.read_build hkind h
      rw [h]
      exact .inr ⟨_, rfl, ⟨bytes, _, hread, hsequence⟩, rfl⟩
  cases c with
  | single v now => exact hbuild .single [v] now (by decide)
  | batch vs now => exact hbuild .batch vs now (by decide)
  | setPacking on => exact .inl ⟨rfl, rfl⟩

theorem numbered_frames (b : Builder) (calls : List Builder.Call) :
    ∀ (i : Nat) (frame : Bytes), (b.frames calls)[i]? = some frame →
      Numbered frame (b.sequence + UInt32.ofNat i) := by
  induction calls generalizing b with
  | nil =>
    intro i frame h
    simp [Builder.frames] at h
  | cons c calls ih =>
    intro i frame h
    rw [Builder.frames] at h
    rcases perform_cases b c with ⟨hnone, hsequence⟩ | ⟨made, hmade, hnumbered, hsequence⟩
    · rw [hnone] at h
      rw [← hsequence]
      exact ih _ i frame (by simpa using h)
    · rw [hmade] at h
      cases i with
      | zero =>
        obtain rfl : made = frame := by simpa using h
        simpa using hnumbered
      | succ i =>
        have hlater := ih _ i frame (by simpa using h)
        rw [hsequence] at hlater
        rw [UInt32.ofNat_add, UInt32.add_comm (UInt32.ofNat i), ← UInt32.add_assoc]
        exact hlater

/-! ## Arrivals -/

/-- What comes to a receiver: the frame at some place among those that were built, or other bytes.
-/
inductive Arrival where
  | frame (i : Nat)
  | noise (raw : Bytes)
  deriving DecidableEq, Repr

namespace Arrival

/-- The bytes that come in, where these frames were built. -/
def bytes (frames : List Bytes) : Arrival → Bytes
  | frame i => frames.getD i []
  | noise raw => raw

/-- The place of a frame. -/
def place? : Arrival → Option Nat
  | frame i => some i
  | noise _ => none

/-- The places of the frames among arrivals, in the order in which they come in. -/
def places (arrivals : List Arrival) : List Nat := arrivals.filterMap place?

/-- Of two frames that come in one after the other, the second was built later, with fewer than
2^31 - 1 frames between them. -/
def Follows (i j : Nat) : Prop := i < j ∧ j - i - 1 < 0x7FFFFFFF

instance (i j : Nat) : Decidable (Follows i j) := inferInstanceAs (Decidable (_ ∧ _))

/-- What comes in is some of the frames, in the order in which they were built, and bytes that
cannot be read. -/
structure Thinned (frames : List Bytes) (arrivals : List Arrival) : Prop where
  built : ∀ i ∈ places arrivals, i < frames.length
  inOrder : (places arrivals).IsChain Follows
  unreadable : ∀ raw, noise raw ∈ arrivals → ∃ e, Receiver.read raw = .error e

end Arrival

/-- Of the numbers from the first to the last of a growing list, those that are not in it are as
many as those in it leave over. -/
theorem card_left_out {came : List Nat} (h : came.Pairwise (· < ·)) {first last : Nat}
    (hfirst : first ∈ came.head?) (hlast : last ∈ came.getLast?) :
    ((Finset.Ioo first last).filter (· ∉ came)).card + came.length + first = last + 1 := by
  have hmem : ∀ i ∈ came, first ≤ i ∧ i ≤ last := by
    intro i hi
    constructor
    · obtain ⟨rest, rfl⟩ := List.head?_eq_some_iff.1 hfirst
      rcases List.mem_cons.1 hi with rfl | hi
      · exact Nat.le_refl _
      · exact Nat.le_of_lt (List.rel_of_pairwise_cons h hi)
    · obtain ⟨before, rfl⟩ := List.getLast?_eq_some_iff.1 hlast
      rcases List.mem_append.1 hi with hi | hi
      · exact Nat.le_of_lt ((List.pairwise_append.1 h).2.2 i hi last (by simp))
      · exact Nat.le_of_eq (List.mem_singleton.1 hi)
  have hin : (Finset.Icc first last).filter (· ∈ came) = came.toFinset := by
    ext i
    simp only [Finset.mem_filter, Finset.mem_Icc, List.mem_toFinset]
    exact ⟨fun hi => hi.2, fun hi => ⟨hmem i hi, hi⟩⟩
  have hout : (Finset.Icc first last).filter (· ∉ came)
      = (Finset.Ioo first last).filter (· ∉ came) := by
    ext i
    simp only [Finset.mem_filter, Finset.mem_Icc, Finset.mem_Ioo]
    constructor
    · rintro ⟨⟨hfrom, hto⟩, hi⟩
      have hne : first ≠ i := fun heq => hi (heq ▸ List.mem_of_mem_head? hfirst)
      have hne' : i ≠ last := fun heq => hi (heq ▸ List.mem_of_mem_getLast? hlast)
      exact ⟨⟨by omega, by omega⟩, hi⟩
    · rintro ⟨⟨hfrom, hto⟩, hi⟩
      exact ⟨⟨Nat.le_of_lt hfrom, Nat.le_of_lt hto⟩, hi⟩
  have hsum := Finset.card_filter_add_card_filter_not (s := Finset.Icc first last) (· ∈ came)
  rw [hin, hout, List.toFinset_card_of_nodup h.nodup, Nat.card_Icc] at hsum
  have := hmem first (List.mem_of_mem_head? hfirst)
  omega

namespace Receiver

variable {σ : Type} (publisher : Publisher σ)

/-- Handles what comes in, one after another. -/
def handleAll (r : Receiver) (state : σ) (raws : List Bytes) : Receiver × σ :=
  raws.foldl (fun s raw => (s.1.handle publisher s.2 raw).2) (r, state)

/-- The receiver after what comes in of some frames. -/
def takeIn (r : Receiver) (state : σ) (frames : List Bytes) (arrivals : List Arrival) : Receiver :=
  (r.handleAll publisher state (arrivals.map (Arrival.bytes frames))).1

theorem handle_noise {raw : Bytes} {e : Frame.FrameError} (h : read raw = .error e) (r : Receiver)
    (state : σ) : (r.handle publisher state raw).2 = (r.countFrame, state) := by
  rw [handle, h]

theorem handle_numbered {raw : Bytes} {sequence : UInt32} (h : Numbered raw sequence)
    (r : Receiver) (state : σ) :
    (r.handle publisher state raw).2.1.expected = some (sequence + 1) ∧
      (r.handle publisher state raw).2.1.counts.framesLost
        = r.counts.framesLost + r.expected.elim 0 (missing · sequence) := by
  obtain ⟨bytes, f, hread, rfl⟩ := h
  obtain ⟨accepted, refused, state', -, hoffers⟩ := offerAll_cases publisher
    ((r.countFrame.follow f.header.sequence).messages bytes f)
    (r.countFrame.follow f.header.sequence) state
  rw [handle, hread]
  simp only [hoffers]
  exact ⟨rfl, rfl⟩

/-- The numbers of two frames are as far apart as the frames, unless that is half the range. -/
theorem missing_between (start : UInt32) {i j : Nat} (h : Arrival.Follows i j) :
    missing (start + UInt32.ofNat i + 1) (start + UInt32.ofNat j) = j - i - 1 := by
  obtain ⟨hlt, hclose⟩ := h
  obtain ⟨k, rfl⟩ := Nat.exists_eq_add_of_lt hlt
  -- the numbers wrap, their distance does not
  have hgap : start + UInt32.ofNat (i + k + 1) - (start + UInt32.ofNat i + 1) = UInt32.ofNat k := by
    have hone : UInt32.ofNat 1 = 1 := rfl
    rw [UInt32.ofNat_add, UInt32.ofNat_add, hone]
    grind
  have hsmall : k < 0x7FFFFFFF := by omega
  have hk : (UInt32.ofNat k).toNat = k := by
    rw [UInt32.toNat_ofNat']
    omega
  rw [missing, hgap, hk]
  simp only [UInt32.size]
  rw [if_pos (by omega)]
  omega

/-! ## The count -/

/-- What a receiver expects and has counted, once the frames at some places came in: each frame from
the first of them to the last came in or is lost. -/
structure Followed (start : UInt32) (came : List Nat) (r : Receiver) : Prop where
  expected_eq : r.expected = came.getLast?.map fun last => start + UInt32.ofNat last + 1
  none_lost : came = [] → r.counts.framesLost = 0
  lost_eq : ∀ first ∈ came.head?, ∀ last ∈ came.getLast?,
    r.counts.framesLost + came.length + first = last + 1

theorem followed_new (start : UInt32) (root : String) (mode : PublishMode) :
    Followed start [] (new root mode) := ⟨rfl, fun _ => rfl, by simp⟩

theorem followed_noise {start : UInt32} {came : List Nat} {r : Receiver} (h : Followed start came r)
    {raw : Bytes} {e : Frame.FrameError} (hread : read raw = .error e) (state : σ) :
    Followed start came (r.handle publisher state raw).2.1 := by
  rw [handle_noise publisher hread]
  exact ⟨h.expected_eq, h.none_lost, h.lost_eq⟩

theorem followed_frame {start : UInt32} {came : List Nat} {r : Receiver} (h : Followed start came r)
    {j : Nat} (hnext : ∀ i ∈ came.getLast?, Arrival.Follows i j) {raw : Bytes}
    (hraw : Numbered raw (start + UInt32.ofNat j)) (state : σ) :
    Followed start (came ++ [j]) (r.handle publisher state raw).2.1 := by
  obtain ⟨hexpected, hlost⟩ := handle_numbered publisher hraw r state
  refine ⟨by simpa using hexpected, by simp, ?_⟩
  intro first hfirst last hlast
  obtain rfl : j = last := by simpa using hlast
  rw [hlost, h.expected_eq]
  -- the first frame of all has no gap before it
  cases hcame : came.getLast? with
  | none =>
    obtain rfl := List.getLast?_eq_none_iff.1 hcame
    obtain rfl : j = first := by simpa using hfirst
    simp [h.none_lost rfl]
    omega
  | some i =>
    have hhead : first ∈ came.head? := by
      cases came with
      | nil => cases hcame
      | cons a rest => simpa using hfirst
    have hsofar := h.lost_eq first hhead i hcame
    have hgap := hnext i hcame
    simp only [Option.map_some, Option.elim_some, missing_between start hgap, List.length_append,
      List.length_singleton]
    have := hgap.1
    omega

/-- After every arrival, by induction on those to come. -/
theorem followed_arrivals {start : UInt32} {frames : List Bytes}
    (hframes : ∀ (i : Nat) (frame : Bytes), frames[i]? = some frame →
      Numbered frame (start + UInt32.ofNat i)) (arrivals : List Arrival) :
    ∀ {came : List Nat} {r : Receiver} (state : σ), Followed start came r →
      (∀ i ∈ Arrival.places arrivals, i < frames.length) →
      (came ++ Arrival.places arrivals).IsChain Arrival.Follows →
      (∀ raw, .noise raw ∈ arrivals → ∃ e, read raw = .error e) →
      Followed start (came ++ Arrival.places arrivals)
        (r.takeIn publisher state frames arrivals) := by
  induction arrivals with
  | nil =>
    intro came r state h _ _ _
    simpa [Arrival.places, takeIn, handleAll] using h
  | cons a arrivals ih =>
    intro came r state h hbuilt horder hnoise
    have hnoise' := fun raw hraw => hnoise raw (List.mem_cons_of_mem a hraw)
    cases a with
    | noise raw =>
      obtain ⟨e, he⟩ := hnoise raw (List.mem_cons_self ..)
      exact ih _ (followed_noise publisher h he state) hbuilt horder hnoise'
    | frame j =>
      have hplaces : Arrival.places (.frame j :: arrivals) = j :: Arrival.places arrivals := rfl
      rw [hplaces] at hbuilt horder ⊢
      have hj : j < frames.length := hbuilt j (List.mem_cons_self ..)
      have hbytes : Arrival.bytes frames (.frame j) = frames[j] := by simp [Arrival.bytes, hj]
      have hnumbered : Numbered (Arrival.bytes frames (.frame j)) (start + UInt32.ofNat j) :=
        hframes j _ (by simp [hbytes])
      have hnext : ∀ i ∈ came.getLast?, Arrival.Follows i j := by
        intro i hi
        exact (List.isChain_append.1 horder).2.2 i hi j (by simp)
      rw [List.append_cons] at horder ⊢
      exact ih _ (followed_frame publisher h hnext hnumbered state)
        (fun i hi => hbuilt i (List.mem_cons_of_mem j hi)) horder hnoise'

/-- **Lost frames are counted exactly.** Whatever number a builder starts at and whatever calls it
is given, a receiver to which some of its frames come, in order and never with 2^31 - 1 of them
missing in a row, has counted those between the first and the last of them that did not come, and
expects the number after that of the last. -/
theorem lost_frames_are_counted (root : String) (mode : PublishMode) (state : σ) (start : UInt32)
    (packing : Bool) (calls : List Builder.Call) (arrivals : List Arrival)
    (h : Arrival.Thinned (Builder.frames ⟨start, packing⟩ calls) arrivals) :
    let frames := Builder.frames ⟨start, packing⟩ calls
    let came := Arrival.places arrivals
    let r := (new root mode).takeIn publisher state frames arrivals
    (came = [] → r.expected = none ∧ r.counts.framesLost = 0) ∧
    ∀ first ∈ came.head?, ∀ last ∈ came.getLast?,
      r.counts.framesLost = ((Finset.Ioo first last).filter (· ∉ came)).card ∧
      ∃ frame bytes f, frames[last]? = some frame ∧ read frame = .ok (bytes, f) ∧
        f.header.sequence = start + UInt32.ofNat last ∧
        r.expected = some (f.header.sequence + 1) := by
  intro frames came r
  have hnumbered := numbered_frames ⟨start, packing⟩ calls
  have hr : Followed start came r := followed_arrivals publisher hnumbered arrivals state
    (followed_new start root mode) h.built h.inOrder h.unreadable
  refine ⟨fun hnone => ⟨by simp [hr.expected_eq, hnone], hr.none_lost hnone⟩, ?_⟩
  intro first hfirst last hlast
  have hgrowing : came.Pairwise (· < ·) :=
    List.isChain_iff_pairwise.1 (h.inOrder.imp fun _ _ hij => hij.1)
  constructor
  · have hcount := hr.lost_eq first hfirst last hlast
    have hcard := card_left_out hgrowing hfirst hlast
    omega
  · have hlt : last < frames.length := h.built last (List.mem_of_mem_getLast? hlast)
    obtain ⟨bytes, f, hread, hsequence⟩ :=
      hnumbered last frames[last] (List.getElem?_eq_getElem hlt)
    refine ⟨frames[last], bytes, f, List.getElem?_eq_getElem hlt, hread, hsequence, ?_⟩
    rw [hr.expected_eq, Option.mem_def.1 hlast, hsequence]
    rfl

/-- Five frames, the first of them packed and the third with number zero. The second and the third
are lost, and noise comes in their place. -/
theorem loss_across_zero_is_counted :
    let frames := Builder.frames ⟨0xFFFFFFFE, true⟩
      [.single ⟨"a", .custom, List.replicate 200 0, 1⟩ 5, .batch [] 6, .setPacking false,
        .single ⟨"b", .bool, [1], 2⟩ 7, .single ⟨"b", .bool, [0], 3⟩ 8, .batch [] 9]
    let arrivals : List Arrival := [.frame 0, .noise [1, 2], .frame 3, .frame 4]
    let r := (new "plc" .perVariable).takeIn Publisher.logging ⟨0, 0⟩ frames arrivals
    Arrival.Thinned frames arrivals ∧ r.counts.framesLost = 2 ∧ r.expected = some 3 := by
  intro frames arrivals r
  have hlength : frames.length = 5 := by decide +kernel
  have h : Arrival.Thinned frames arrivals := by
    refine ⟨?_, by decide, ?_⟩
    · rw [hlength]
      decide
    · intro raw hraw
      obtain rfl : raw = [1, 2] := by simpa [arrivals] using hraw
      exact ⟨.headerTooShort 2, rfl⟩
  obtain ⟨-, hcounted⟩ := lost_frames_are_counted Publisher.logging "plc" .perVariable ⟨0, 0⟩
    0xFFFFFFFE true _ arrivals h
  obtain ⟨hlost, frame, bytes, f, -, -, hsequence, hexpected⟩ := hcounted 0 rfl 4 rfl
  have hcard : ((Finset.Ioo 0 4).filter (· ∉ Arrival.places arrivals)).card = 2 := by decide
  have hlast : (0xFFFFFFFE : UInt32) + UInt32.ofNat 4 + 1 = 3 := by decide
  rw [hcard] at hlost
  rw [hsequence, hlast] at hexpected
  subst r frames
  exact ⟨h, hlost, hexpected⟩

end Receiver

end Telemetry
