import Telemetry.Clock
import Telemetry.Frame.Building

/-!
# Batches

A batch collects variables until they are sent as one frame. It is ready when it holds enough of
them, or when enough time has passed since its clock was last restarted. Taking a frame empties the
batch and restarts the clock; taking one from an empty batch only restarts the clock; where no
frame can be built everything stays.
-/

namespace Telemetry

structure BatchConfig where
  maxSize : UInt64
  timeoutMicros : UInt64
  deriving DecidableEq, Repr, Inhabited

namespace BatchConfig

/-- A hundred variables or ten milliseconds. -/
def standard : BatchConfig := ⟨100, 10000⟩

/-- The time that makes a batch ready, in nanoseconds. -/
def timeout (c : BatchConfig) : Nat := c.timeoutMicros.toNat * 1000

end BatchConfig

structure Batch where
  config : BatchConfig
  /-- What waits, oldest first. -/
  entries : Array Variable
  restarted : Nat
  builder : Frame.Builder
  deriving Repr, Inhabited

namespace Batch

/-- An empty batch whose clock starts now. There is one for every limit, because a variable takes no
room here before it comes; where room for all of them is reserved at once, a limit from 2^57 on ends
the program. -/
def empty (config : BatchConfig) (builder : Frame.Builder) (now : Nat) : Batch :=
  ⟨config, #[], now, builder⟩

def size (b : Batch) : Nat := b.entries.size

def isEmpty (b : Batch) : Bool := b.entries.isEmpty

def isReady (b : Batch) (now : Nat) : Bool :=
  decide (b.config.maxSize.toNat ≤ b.size) || decide (b.config.timeout ≤ now - b.restarted)

def push (b : Batch) (v : Variable) : Batch := { b with entries := b.entries.push v }

/-- Adds a variable, and says whether the batch should be sent now. -/
def addAt (b : Batch) (v : Variable) (now : Nat) : Bool × Batch :=
  let b := b.push v
  (b.isReady now, b)

def addTyped (b : Batch) (name : String) (dataType : DataType) (value : Bytes) (now : Nat) :
    Bool × Batch :=
  b.addAt ⟨name, dataType, value, Clock.stamp now⟩ now

def add (b : Batch) (name : String) (value : Bytes) (now : Nat) : Bool × Batch :=
  b.addTyped name .custom value now

def clear (b : Batch) (now : Nat) : Batch := { b with entries := #[], restarted := now }

/-- Makes a frame of what waits, and leaves it waiting. -/
def serialize (b : Batch) (now : Nat) : Except Frame.FrameError Bytes × Batch :=
  let (outcome, builder) := b.builder.buildBatch b.entries.toList (Clock.stamp now)
  (outcome, { b with builder })

/-- Makes a frame of what waits, if anything does, and empties the batch if a frame was made. -/
def flush (b : Batch) (now : Nat) : Except Frame.FrameError (Option Bytes) × Batch :=
  if b.isEmpty then (.ok none, { b with restarted := now })
  else
    match b.serialize now with
    | (.error e, b) => (.error e, b)
    | (.ok frame, b) => (.ok (some frame), b.clear now)

end Batch

end Telemetry
