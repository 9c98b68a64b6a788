import Telemetry.SystemError

/-!
# Ring errors

Why a ring cannot be opened, written or read, and how each cause is worded.
-/

namespace Telemetry

inductive RingError where
  | full (needed available : Nat)
  /-- A message over half the ring. -/
  | messageTooLarge (length max : Nat)
  | empty
  | bufferTooSmall (needed : Nat)
  /-- A length that does not fit in what is unread. -/
  | corrupted (length available : Nat)
  | invalidCapacity (capacity : Nat)
  | capacityMismatch (requested found : Nat)
  /-- A segment that its creator has not made a ring of yet. -/
  | notInitialized (name : String)
  | invalidName (reason : String)
  | segment (cause : SystemError)
  deriving DecidableEq, Repr, Inhabited

def RingError.message : RingError → String
  | .full needed available => s!"Ring full: need {needed} bytes, {available} available"
  | .messageTooLarge length max => s!"Message of {length} bytes exceeds limit of {max}"
  | .empty => "Ring empty"
  | .bufferTooSmall needed => s!"Read buffer too small: need {needed} bytes"
  | .corrupted length available =>
    s!"Corrupt length prefix {length} with {available} bytes unread"
  | .invalidCapacity capacity => s!"Invalid ring capacity {capacity} (minimum 8)"
  | .capacityMismatch requested found =>
    s!"Capacity mismatch: requested {requested}, segment has {found}"
  | .notInitialized name => s!"Shared memory segment {name} is not initialised"
  | .invalidName reason => s!"Invalid segment name: {reason}"
  | .segment cause => s!"Shared memory error: {cause.message}"

end Telemetry
