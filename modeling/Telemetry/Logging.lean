import Telemetry.Decimal.Reading
import Telemetry.Error
import Telemetry.Text.Quoted

/-!
# Logging

A log has one of five levels, named by a word in any case or by a number from 1 for the least to 5
for the most. A process has one log: setting up a second one fails.
-/

namespace Telemetry

inductive LogLevel where
  | error
  | warn
  | info
  | debug
  | trace
  deriving DecidableEq, Repr, Inhabited

def LogLevel.ofText? (text : String) : Option LogLevel :=
  match Decimal.readNat64? text with
  | some n => [LogLevel.error, .warn, .info, .debug, .trace][n - 1]?.filter fun _ => n != 0
  | none =>
    [("error", LogLevel.error), ("warn", .warn), ("info", .info), ("debug", .debug),
      ("trace", .trace)].lookup text.toLower

/-- Sets up the log of a process, which may have one already. -/
def setUpLogging (present : Bool) (level : String) : Except BridgeError LogLevel :=
  match LogLevel.ofText? level with
  | none => .error (.invalidConfig s!"unknown log level {Text.quoted level}")
  | some level =>
    if present then .error (.logging "a global default trace dispatcher has already been set")
    else .ok level

end Telemetry
