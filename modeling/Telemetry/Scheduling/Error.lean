import Telemetry.SystemError

/-!
# Scheduling errors

Why a periodic task cannot be started, and how each cause is worded.
-/

namespace Telemetry.Scheduling

inductive SchedulerError where
  | alreadyRunning
  | invalidConfig (reason : String)
  | memoryLock (cause : SystemError)
  | spawn (cause : SystemError)
  /-- The thread cannot be given what it needs. -/
  | threadSetup (reason : String)
  deriving DecidableEq, Repr, Inhabited

def SchedulerError.message : SchedulerError → String
  | .alreadyRunning => "Periodic task already running"
  | .invalidConfig reason => s!"Invalid real-time configuration: {reason}"
  | .memoryLock cause => s!"Failed to lock memory: {cause.message}"
  | .spawn cause => s!"Failed to spawn real-time thread: {cause.message}"
  | .threadSetup reason => s!"Real-time thread setup failed: {reason}"

end Telemetry.Scheduling
