import Telemetry.Batch
import Telemetry.Counters
import Telemetry.Ring.Writing

/-!
# Sending

The real-time side collects the samples of a cycle in a batch, and writes the batch to the ring as
one frame when it is ready. Readiness is asked for in every cycle, so a device that falls silent
still gets its last samples out. Whatever becomes of a frame, the batch is empty afterwards: a frame
is written, dropped for want of space, or rejected because it cannot be built or never fits.
-/

namespace Telemetry

structure Sender where
  batch : Batch
  counts : SendingCounts
  deriving Repr, Inhabited

namespace Sender

def new (batch : Batch) : Sender := ⟨batch, .zero⟩

def pending (s : Sender) : Nat := s.batch.size

/-- What becomes of a frame that the ring took or refused, in the counts. -/
def tally (counts : SendingCounts) (frame : Bytes) : Except RingError Unit → SendingCounts
  | .ok () => { counts with
      framesWritten := counts.framesWritten + 1
      bytesWritten := counts.bytesWritten + frame.length }
  | .error (.full ..) => { counts with framesDropped := counts.framesDropped + 1 }
  | .error _ => { counts with framesRejected := counts.framesRejected + 1 }

def write (s : Sender) (frame : Bytes) (ring : Ring) : Sender × Ring :=
  let (outcome, ring) := ring.write frame
  ({ s with counts := tally s.counts frame outcome }, ring)

def flush (s : Sender) (now : Nat) (ring : Ring) : Sender × Ring :=
  match s.batch.flush now with
  | (.ok none, batch) => ({ s with batch }, ring)
  | (.ok (some frame), batch) => write { s with batch } frame ring
  | (.error _, batch) =>
    ({ batch := batch.clear now
       counts := { s.counts with framesRejected := s.counts.framesRejected + 1 } }, ring)

/-- Takes the samples of a poll in, and as many as the poll reported into the counts. -/
def take (s : Sender) (samples : List Variable) (reported : Nat) : Sender :=
  { batch := samples.foldl Batch.push s.batch
    counts := { s.counts with samples := s.counts.samples + reported } }

/-- One cycle: takes the samples of a poll in, and sends what waits if it is time. -/
def cycle (s : Sender) (now : Nat) (samples : List Variable) (reported : Nat) (ring : Ring) :
    Sender × Ring :=
  let s := s.take samples reported
  if s.batch.isReady now then s.flush now ring else (s, ring)

/-- Gives the sender up, which sends what waits. -/
def drop (s : Sender) (now : Nat) (ring : Ring) : Sender × Ring := s.flush now ring

end Sender

end Telemetry
