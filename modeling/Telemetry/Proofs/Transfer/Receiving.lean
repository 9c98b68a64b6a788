import Telemetry.Proofs.Frame.Packing
import Telemetry.Transfer.Receiver

/-!
# What a receiver does with a message

Whatever the publisher makes of them, messages that are offered are counted and nothing else changes
(`offerAll_cases`), and a message that is handled is one frame received (`framesReceived_handle`). A
frame that a builder made is read as the variables it was made of, packed or not, under the number
that the builder gave it (`read_build`). A publisher that accepts everything then has each of its
variables, in order (`handle_accepting`).
-/

namespace Telemetry

namespace Receiver

/-! ## Offering -/

/-- Takes in how many messages were accepted and how many were refused. -/
def countOffered (r : Receiver) (accepted refused : Nat) : Receiver :=
  { r with counts := { r.counts with
      messagesPublished := r.counts.messagesPublished + accepted
      publishFailures := r.counts.publishFailures + refused } }

theorem countOffered_countOffered (r : Receiver) (a f a' f' : Nat) :
    (r.countOffered a f).countOffered a' f' = r.countOffered (a + a') (f + f') := by
  simp [countOffered, Nat.add_assoc]

variable {σ : Type} (publisher : Publisher σ)

theorem offer_cases (r : Receiver) (state : σ) (m : Message) :
    ∃ accepted refused state', accepted + refused = 1 ∧
      r.offer publisher state m = (accepted, r.countOffered accepted refused, state') := by
  rw [offer]
  split
  next state' _ => exact ⟨1, 0, state', rfl, rfl⟩
  next state' _ => exact ⟨0, 1, state', rfl, rfl⟩

/-- Every message that is offered is counted, as accepted or as refused, and nothing else changes.
-/
theorem offerAll_cases : ∀ (messages : List Message) (r : Receiver) (state : σ),
    ∃ accepted refused state', accepted + refused = messages.length ∧
      r.offerAll publisher state messages = (accepted, r.countOffered accepted refused, state')
  | [], r, state => ⟨0, 0, state, rfl, rfl⟩
  | m :: rest, r, state => by
      obtain ⟨a, f, state', hone, hoffer⟩ := offer_cases publisher r state m
      obtain ⟨a', f', state'', hrest, hoffers⟩ := offerAll_cases rest (r.countOffered a f) state'
      refine ⟨a + a', f + f', state'', by simp; omega, ?_⟩
      simp [offerAll, hoffer, hoffers, countOffered_countOffered]

theorem framesReceived_handle (r : Receiver) (state : σ) (raw : Bytes) :
    (r.handle publisher state raw).2.1.counts.framesReceived = r.counts.framesReceived + 1 := by
  rw [handle]
  split
  next => rfl
  next bytes frame _ =>
    obtain ⟨a, f, state', -, hoffers⟩ := offerAll_cases publisher
      ((r.countFrame.follow frame.header.sequence).messages bytes frame)
      (r.countFrame.follow frame.header.sequence) state
    simp only [hoffers]
    rfl

end Receiver

/-! ## A publisher that accepts everything -/

/-- Records all messages. -/
def Publisher.accepting : Publisher (Array Message) := .recording fun _ => false

namespace Receiver

/-- Takes in messages that were accepted. -/
def countPublished (r : Receiver) (n : Nat) : Receiver :=
  { r with counts := { r.counts with messagesPublished := r.counts.messagesPublished + n } }

theorem offer_accepting (r : Receiver) (state : Array Message) (m : Message) :
    r.offer Publisher.accepting state m = (1, r.countPublished 1, state.push m) := rfl

theorem countPublished_countPublished (r : Receiver) (n k : Nat) :
    (r.countPublished n).countPublished k = r.countPublished (n + k) := by
  rw [countPublished, countPublished, countPublished, Nat.add_assoc]

/-- What is offered is recorded, in order. -/
theorem offerAll_accepting : ∀ (messages : List Message) (r : Receiver) (state : Array Message),
    r.offerAll Publisher.accepting state messages
      = (messages.length, r.countPublished messages.length, state ++ messages.toArray)
  | [], r, state => by
      rw [offerAll, List.length_nil, Array.append_empty]
      rfl
  | m :: rest, r, state => by
      rw [offerAll, offer_accepting]
      simp only [offerAll_accepting rest, countPublished_countPublished, List.length_cons,
        Nat.add_comm 1]
      simp

/-! ## Frames that a builder made -/

/-- Where a frame can be read, it can be restored, and what is restored can be decoded. -/
theorem read_eq_ok {raw bytes : Bytes} {frame : Frame.Decoded}
    (hread : read raw = .ok (bytes, frame)) :
    ∃ restored, Frame.restore raw = .ok restored ∧ restored.bytes = bytes ∧
      Frame.decode restored.bytes = .ok frame := by
  rw [read] at hread
  cases hrestore : Frame.restore raw with
  | error e =>
    rw [hrestore] at hread
    cases hread
  | ok restored =>
    rw [hrestore] at hread
    cases hdecode : Frame.decode restored.bytes with
    | error e => simp [bind, Except.bind, hdecode] at hread
    | ok decoded =>
      simp only [bind, Except.bind, hdecode, pure, Except.pure, Except.ok.injEq,
        Prod.mk.injEq] at hread
      obtain ⟨rfl, rfl⟩ := hread
      exact ⟨restored, rfl, rfl, hdecode⟩

/-- A frame that a builder made of variables, packed or not, is read as these variables, under the
builder's number. -/
theorem read_build {b b' : Frame.Builder} {kind : Frame.PayloadKind} {vs : List Variable}
    {now : UInt64} {frame : Bytes} (hkind : kind ≠ .compressed)
    (h : b.build kind vs now = (.ok frame, b')) :
    ∃ bytes header, read frame = .ok (bytes, ⟨header, vs⟩) ∧ header.sequence = b.sequence := by
  obtain ⟨f, hlaid, rfl, -⟩ := Frame.build_eq_ok h
  obtain ⟨hcarries, hk, -, hsequence⟩ := Frame.layOut_eq_ok hlaid
  have hplain : f.header.kind ≠ .compressed := hk ▸ hkind
  obtain ⟨restored, hrestore, hpacked, hsame⟩ := Frame.restore_pack hcarries hplain b.packing
  -- the frame that was laid out comes back, as it was or as a batch
  have hback : ∃ g : Frame.Raw, restored.bytes = g.bytes ∧ g.Carries vs ∧
      g.header.kind ≠ .compressed ∧ g.header.sequence = b.sequence := by
    by_cases hdeclares : Frame.DeclaresCompressed (if b.packing then f.pack else f).bytes
    · exact ⟨f.asBatch, hpacked hdeclares, ⟨hcarries.1, hcarries.2, hcarries.3, hcarries.4⟩,
        by simp [Frame.Raw.asBatch], hsequence⟩
    · exact ⟨f, hsame hdeclares, hcarries, hplain, hsequence⟩
  obtain ⟨g, hbytes, hg, hgkind, hgsequence⟩ := hback
  have hdecode := Frame.decode_of_carries hg hgkind []
  rw [List.append_nil, ← hbytes] at hdecode
  refine ⟨restored.bytes, g.header, ?_, hgsequence⟩
  simp [read, hrestore, hdecode, bind, Except.bind, pure, Except.pure]

theorem read_buildBatch {b b' : Frame.Builder} {vs : List Variable} {now : UInt64} {frame : Bytes}
    (h : b.buildBatch vs now = (.ok frame, b')) :
    ∃ bytes header, read frame = .ok (bytes, ⟨header, vs⟩) := by
  obtain ⟨bytes, header, hread, -⟩ := read_build (by decide) h
  exact ⟨bytes, header, hread⟩

/-- A frame that is read as a batch is handled without error, and each of its variables is published
on a topic of its own. -/
theorem handle_accepting {r : Receiver} {raw bytes : Bytes} {frame : Frame.Decoded}
    (hmode : r.mode = .perVariable) (hread : read raw = .ok (bytes, frame))
    (state : Array Message) :
    ∃ r', r.handle Publisher.accepting state raw = (.ok frame.entries.length, r',
        state ++ (frame.entries.map fun v => ⟨r.root ++ "/" ++ v.name, v.value⟩).toArray) ∧
      r'.root = r.root ∧ r'.mode = r.mode ∧
      r'.counts.framesReceived = r.counts.framesReceived + 1 := by
  refine ⟨(r.countFrame.follow frame.header.sequence).countPublished frame.entries.length,
    ?_, rfl, rfl, rfl⟩
  have hmessages : (r.countFrame.follow frame.header.sequence).messages bytes frame
      = frame.entries.map fun v => ⟨r.root ++ "/" ++ v.name, v.value⟩ := by
    have hmode' : (r.countFrame.follow frame.header.sequence).mode = .perVariable := hmode
    rw [messages, hmode']
    rfl
  rw [handle, hread]
  dsimp only
  rw [hmessages, offerAll_accepting, List.length_map]

end Receiver

end Telemetry
