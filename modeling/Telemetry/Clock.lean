/-!
# Time

Times are natural numbers of nanoseconds, since 1970 or since some fixed moment for a clock that
only measures intervals. Time stamps on a wire are in whole microseconds.
-/

namespace Telemetry.Clock

/-- The time stamp of a time: whole microseconds, modulo 64 bits. -/
def stamp (now : Nat) : UInt64 := UInt64.ofNat (now / 1000)

end Telemetry.Clock
