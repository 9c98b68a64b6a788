import Telemetry.Frame.Error
import Telemetry.Ring.Error
import Telemetry.Scheduling.Error

/-!
# Errors of the bridge

What can go wrong when a bridge is configured, started and run, and how each cause is worded. A
cause from one of its parts is worded as that part words it, behind the name of the part.
-/

namespace Telemetry

inductive BridgeError where
  | config
  /-- A configuration that can be read but not used. -/
  | invalidConfig (reason : String)
  | logging (reason : String)
  | duplicateVariable (name : String)
  | invalidVariable (name reason : String)
  | ring (cause : RingError)
  | scheduler (cause : Scheduling.SchedulerError)
  | frame (cause : Frame.FrameError)
  | notConnected
  deriving DecidableEq, Repr, Inhabited

def BridgeError.message : BridgeError → String
  | .config => "Configuration error"
  | .invalidConfig reason => s!"Invalid configuration: {reason}"
  | .logging reason => s!"Logging setup failed: {reason}"
  | .duplicateVariable name => s!"Variable {name} registered twice"
  | .invalidVariable name reason => s!"Variable {name}: {reason}"
  | .ring cause => s!"Ring buffer error: {cause.message}"
  | .scheduler cause => s!"Scheduler error: {cause.message}"
  | .frame cause => s!"Protocol error: {cause.message}"
  | .notConnected => "Publisher not connected"

end Telemetry
