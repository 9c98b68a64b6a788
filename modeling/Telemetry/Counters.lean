/-!
# Counters

What happened to samples, frames and messages. The sending side counts up to the ring, the receiving
side from the ring on; neither touches the counts of the other, and a report shows both.
-/

namespace Telemetry

structure SendingCounts where
  samples : Nat
  framesWritten : Nat
  bytesWritten : Nat
  /-- Frames for which the ring was too full. -/
  framesDropped : Nat
  /-- Frames that could not be built, or never fit in the ring. -/
  framesRejected : Nat
  deriving DecidableEq, Repr, Inhabited

structure ReceivingCounts where
  framesReceived : Nat
  messagesPublished : Nat
  publishFailures : Nat
  /-- Frames that could not be read. -/
  decodeErrors : Nat
  /-- Frames that are missing between those received, by their sequence numbers. -/
  framesLost : Nat
  /-- The bytes that were unread in the ring after the last read. -/
  ringFill : Nat
  deriving DecidableEq, Repr, Inhabited

structure Counters extends SendingCounts, ReceivingCounts where
  deriving DecidableEq, Repr, Inhabited

def SendingCounts.zero : SendingCounts := ⟨0, 0, 0, 0, 0⟩

def ReceivingCounts.zero : ReceivingCounts := ⟨0, 0, 0, 0, 0, 0⟩

namespace Counters

def zero : Counters := ⟨.zero, .zero⟩

/-- The counts under their names, in the order of a report. -/
def toList (c : Counters) : List (String × Nat) :=
  [("samples", c.samples),
    ("frames_written", c.framesWritten),
    ("bytes_written", c.bytesWritten),
    ("frames_dropped", c.framesDropped),
    ("frames_rejected", c.framesRejected),
    ("frames_received", c.framesReceived),
    ("messages_published", c.messagesPublished),
    ("publish_failures", c.publishFailures),
    ("decode_errors", c.decodeErrors),
    ("frames_lost", c.framesLost),
    ("ring_fill", c.ringFill)]

/-- The counts whose names are given, in any order; the others as they were. -/
def update (c : Counters) (counts : List (String × Nat)) : Counters :=
  let count (name : String) (before : Nat) := (counts.lookup name).getD before
  { samples := count "samples" c.samples
    framesWritten := count "frames_written" c.framesWritten
    bytesWritten := count "bytes_written" c.bytesWritten
    framesDropped := count "frames_dropped" c.framesDropped
    framesRejected := count "frames_rejected" c.framesRejected
    framesReceived := count "frames_received" c.framesReceived
    messagesPublished := count "messages_published" c.messagesPublished
    publishFailures := count "publish_failures" c.publishFailures
    decodeErrors := count "decode_errors" c.decodeErrors
    framesLost := count "frames_lost" c.framesLost
    ringFill := count "ring_fill" c.ringFill }

end Counters

end Telemetry
