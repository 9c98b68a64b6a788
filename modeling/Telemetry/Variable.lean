import Telemetry.Bytes
import Telemetry.DataType

/-!
# Variables

A variable is one named value with its type and the time it was captured.
-/

namespace Telemetry

structure Variable where
  name : String
  dataType : DataType
  value : Bytes
  /-- When the value was captured, in microseconds since 1970. -/
  timestamp : UInt64
  deriving DecidableEq, Repr, Inhabited

end Telemetry
