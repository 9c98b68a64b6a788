import Telemetry.Proofs.Ring.Contents
import Telemetry.Proofs.Batch.History
import Telemetry.Transfer.Sender

/-!
# What becomes of a batch

A flush makes one shipment of all that waits, if anything waits: the frame is written, or dropped
because the ring is full, or rejected because it cannot be built or never fits. `flush_cases` says
all that a flush does to the sender and to the ring in each of these cases.
-/

namespace Telemetry

open Telemetry.Ring (Queue)

/-- What becomes of a batch. -/
inductive Fate where
  /-- Its frame is in the ring. -/
  | written
  /-- The ring had no room for its frame. -/
  | dropped
  /-- Its frame cannot be built, or is too large for the ring. -/
  | rejected
  deriving DecidableEq, Repr

/-- A batch that was sent, and what became of it. -/
structure Shipment where
  fate : Fate
  samples : List Variable
  deriving DecidableEq, Repr

/-- The fate of a frame that a ring took or refused. -/
def Fate.of : Except RingError Unit → Fate
  | .ok () => .written
  | .error (.full ..) => .dropped
  | .error _ => .rejected

/-- The counts after a frame of some length met its fate. -/
def Fate.tally (c : SendingCounts) (length : Nat) : Fate → SendingCounts
  | .written => { c with
      framesWritten := c.framesWritten + 1
      bytesWritten := c.bytesWritten + length }
  | .dropped => { c with framesDropped := c.framesDropped + 1 }
  | .rejected => { c with framesRejected := c.framesRejected + 1 }

/-- The bytes that were written to the ring, lengths included. -/
def SendingCounts.bytesSent (c : SendingCounts) : Nat :=
  c.bytesWritten + Ring.lengthSize * c.framesWritten

theorem bytesSent_tally (c : SendingCounts) (length : Nat) {fate : Fate} (h : fate ≠ .written) :
    (fate.tally c length).bytesSent = c.bytesSent := by
  cases fate with
  | written => exact absurd rfl h
  | dropped => rfl
  | rejected => rfl

theorem bytesSent_tally_written (c : SendingCounts) (length : Nat) :
    (Fate.written.tally c length).bytesSent = c.bytesSent + (length + Ring.lengthSize) := by
  rw [Fate.tally, SendingCounts.bytesSent, SendingCounts.bytesSent]
  dsimp only
  rw [Nat.mul_add]
  omega

theorem le_bytesSent_tally (c : SendingCounts) (length : Nat) (fate : Fate) :
    c.bytesSent ≤ (fate.tally c length).bytesSent := by
  by_cases h : fate = .written
  · rw [h, bytesSent_tally_written]
    exact Nat.le_add_right _ _
  · exact Nat.le_of_eq (bytesSent_tally c length h).symm

/-- The shipment that a flush makes, if anything waits. -/
def Sender.shipments (s : Sender) (now : Nat) (ring : Ring) : List Shipment :=
  match s.batch.flush now with
  | (.ok none, _) => []
  | (.ok (some frame), _) => [⟨Fate.of (ring.write frame).1, s.batch.entries.toList⟩]
  | (.error _, _) => [⟨.rejected, s.batch.entries.toList⟩]

namespace Sender

theorem entries_take (s : Sender) (samples : List Variable) (reported : Nat) :
    (s.take samples reported).batch.entries.toList = s.batch.entries.toList ++ samples := by
  rw [take, Batch.foldl_push_eq, Array.toList_append]

/-! ## Flushes -/

/-- A flush from a sender and a ring of which `used` bytes are unread: the sender and the ring after
it, and the shipment. -/
inductive Flush (s : Sender) (ring : Ring) (used : Nat) : Sender → Ring → List Shipment → Prop
  /-- Nothing waited. -/
  | idle {s' : Sender} (hnone : s.batch.entries = #[]) (hempty : s'.batch.entries = #[])
    (hcounts : s'.counts = s.counts) : Flush s ring used s' ring []
  | written {s' : Sender} {frame bytes : Bytes} {header : Frame.Header}
    (hread : Receiver.read frame = .ok (bytes, ⟨header, s.batch.entries.toList⟩))
    (hlong : frame.length ≤ ring.capacity / 2)
    (hfits : used + Ring.footprint frame ≤ ring.capacity) (hempty : s'.batch.entries = #[])
    (hcounts : s'.counts = Fate.written.tally s.counts frame.length) :
    Flush s ring used s' (ring.append frame) [⟨.written, s.batch.entries.toList⟩]
  /-- What waited is gone. -/
  | lost {s' : Sender} {fate : Fate} (hfate : fate ≠ .written) (hempty : s'.batch.entries = #[])
    (hcounts : s'.counts = fate.tally s.counts 0) :
    Flush s ring used s' ring [⟨fate, s.batch.entries.toList⟩]

/-- Nothing waits after a flush. -/
theorem Flush.entries_eq {s s' : Sender} {ring ring' : Ring} {used : Nat} {made : List Shipment}
    (h : Flush s ring used s' ring' made) : s'.batch.entries = #[] := by
  cases h with
  | idle _ hempty _ => exact hempty
  | written _ _ _ hempty _ => exact hempty
  | lost _ hempty _ => exact hempty

theorem flush_cases {s : Sender} {ring : Ring} {read : Nat} {q : Queue}
    (h : ring.Carries read q) (now : Nat) :
    Flush s ring q.used (s.flush now ring).1 (s.flush now ring).2 (s.shipments now ring) := by
  rw [flush, shipments]
  rcases s.batch.flush_cases now with ⟨hnone, hflush⟩ | ⟨-, e, -, hflush⟩ |
    ⟨-, -, frame, builder, bytes, header, hflush, hread⟩
  · rw [hflush]
    exact .idle hnone hnone rfl
  · rw [hflush]
    exact .lost (show Fate.rejected ≠ .written by decide) rfl rfl
  · rw [hflush]
    dsimp only
    rw [write, h.write_eq]
    by_cases hlong : ring.capacity / 2 < frame.length
    · rw [if_pos hlong]
      exact .lost (show Fate.rejected ≠ .written by decide) rfl rfl
    · rw [if_neg hlong]
      by_cases hfull : ring.capacity < q.used + Ring.footprint frame
      · rw [if_pos hfull]
        exact .lost (show Fate.dropped ≠ .written by decide) rfl rfl
      · rw [if_neg hfull]
        exact .written hread (Nat.le_of_not_lt hlong) (Nat.le_of_not_lt hfull) rfl rfl

theorem tally_eq (c : SendingCounts) (frame : Bytes) (outcome : Except RingError Unit) :
    tally c frame outcome = (Fate.of outcome).tally c frame.length := by
  rcases outcome with e | ⟨⟩
  · cases e <;> rfl
  · rfl

/-- Bytes that were sent stay sent. -/
theorem le_bytesSent_flush (s : Sender) (now : Nat) (ring : Ring) :
    s.counts.bytesSent ≤ (s.flush now ring).1.counts.bytesSent := by
  rw [flush]
  split
  · exact Nat.le_refl _
  · rw [write]
    dsimp only
    rw [tally_eq]
    exact le_bytesSent_tally _ _ _
  · exact Nat.le_refl _

theorem capacity_flush (s : Sender) (now : Nat) (ring : Ring) :
    (s.flush now ring).2.capacity = ring.capacity := by
  rw [flush]
  split
  · rfl
  · rfl
  · rfl

end Sender

end Telemetry
