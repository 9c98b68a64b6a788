import Telemetry.Report.Basic

/-!
# The reporter

The reporter reports whenever an interval has passed. It ends when it is told to, or when nobody is
left to tell it, and reports once more at the end.
-/

namespace Telemetry

/-- What a reporter waits for. -/
inductive ReporterSignal where
  | interval
  | shutdown (now : Bool)
  | abandoned
  deriving DecidableEq, Repr, Inhabited

structure Reporter where
  topic : String
  tracker : RateTracker
  finished : Bool
  deriving DecidableEq, Repr, Inhabited

namespace Reporter

def topicUnder (root : String) : String := topicRoot root ++ "/stats"

def new (root : String) (now : Nat) : Reporter := ⟨topicUnder root, .new now, false⟩

def reports : ReporterSignal → Bool
  | .interval | .abandoned => true
  | .shutdown now => now

def ends : ReporterSignal → Bool
  | .interval => false
  | .shutdown now => now
  | .abandoned => true

/-- Takes a signal: the report it calls for, if it does, and the reporter after that. -/
def react (r : Reporter) (o : Observation) (now : Nat) (signal : ReporterSignal) :
    Option Report × Reporter :=
  if r.finished || !reports signal then (none, r)
  else
    let (report, tracker) := o.report r.tracker now
    (some report, { r with tracker, finished := ends signal })

end Reporter

end Telemetry
