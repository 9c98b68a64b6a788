import Telemetry.Counters
import Telemetry.Frame.Restoring
import Telemetry.Publisher

/-!
# Receiving

The receiving side restores and reads a frame, follows the sequence numbers, and offers what the
frame holds to a publisher: each variable on a topic of its own, or the frame as a whole. A frame
that cannot be read changes nothing but the count of frames, and offers nothing. A refused message
is counted and the next one offered.
-/

namespace Telemetry

structure Receiver where
  root : String
  mode : PublishMode
  /-- The sequence number that should come next, once one came. -/
  expected : Option UInt32
  counts : ReceivingCounts
  deriving DecidableEq, Repr, Inhabited

namespace Receiver

def new (root : String) (mode : PublishMode) : Receiver := ⟨topicRoot root, mode, none, .zero⟩

/-- The frame in received bytes, with the bytes it was read from. -/
def read (raw : Bytes) : Except Frame.FrameError (Bytes × Frame.Decoded) := do
  let restored ← Frame.restore raw
  return (restored.bytes, ← Frame.decode restored.bytes)

/-- The messages that a frame is published as. -/
def messages (r : Receiver) (bytes : Bytes) (frame : Frame.Decoded) : List Message :=
  match r.mode with
  | .perVariable => frame.entries.map fun v => ⟨r.root ++ "/" ++ v.name, v.value⟩
  | .frame => [⟨r.root ++ "/frames", bytes.take frame.header.totalSize.toNat⟩]

/-- The frames that are missing between the number expected and the one that came. A number from
behind, half the range or more ahead, is a new start and misses none. -/
def missing (expected sequence : UInt32) : Nat :=
  let gap := (sequence - expected).toNat
  if gap < (UInt32.size - 1) / 2 then gap else 0

def countFrame (r : Receiver) : Receiver :=
  { r with counts := { r.counts with framesReceived := r.counts.framesReceived + 1 } }

def countError (r : Receiver) : Receiver :=
  { r with counts := { r.counts with decodeErrors := r.counts.decodeErrors + 1 } }

def noteFill (r : Receiver) (fill : Nat) : Receiver :=
  { r with counts := { r.counts with ringFill := fill } }

def follow (r : Receiver) (sequence : UInt32) : Receiver :=
  let lost := r.expected.elim 0 fun expected => missing expected sequence
  { r with
    expected := some (sequence + 1)
    counts := { r.counts with framesLost := r.counts.framesLost + lost } }

/-- Offers a message: the number of messages accepted, and what follows from it. -/
def offer {σ : Type} (publisher : Publisher σ) (r : Receiver) (state : σ) (m : Message) :
    Nat × Receiver × σ :=
  match publisher.publish state m with
  | (.ok (), state) =>
    (1, { r with counts := { r.counts with
      messagesPublished := r.counts.messagesPublished + 1 } }, state)
  | (.error _, state) =>
    (0, { r with counts := { r.counts with
      publishFailures := r.counts.publishFailures + 1 } }, state)

def offerAll {σ : Type} (publisher : Publisher σ) (r : Receiver) (state : σ) :
    List Message → Nat × Receiver × σ
  | [] => (0, r, state)
  | m :: rest =>
    let (n, r, state) := r.offer publisher state m
    let (more, r, state) := r.offerAll publisher state rest
    (n + more, r, state)

/-- Publishes what received bytes hold, and gives the number of messages that were accepted. -/
def handle {σ : Type} (publisher : Publisher σ) (r : Receiver) (state : σ) (raw : Bytes) :
    Except BridgeError Nat × Receiver × σ :=
  let r := r.countFrame
  match read raw with
  | .error e => (.error (.frame e), r, state)
  | .ok (bytes, frame) =>
    let r := r.follow frame.header.sequence
    let (n, r, state) := r.offerAll publisher state (r.messages bytes frame)
    (.ok n, r, state)

end Receiver

end Telemetry
