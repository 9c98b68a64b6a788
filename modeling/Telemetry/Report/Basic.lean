import Telemetry.Clock.Calendar
import Telemetry.Counters
import Telemetry.Latency.Statistics
import Telemetry.Publisher
import Telemetry.Report.Rates
import Telemetry.Value.Json.Writing

/-!
# Reports

A report says how a bridge is doing at one moment: its latencies, its counters, and the rates since
the report before. It is published as a JSON document on a topic of its own.
-/

namespace Telemetry

structure Observation where
  device : String
  backend : String
  latency : Latency.Statistics
  counters : Counters
  ringCapacity : Nat
  deriving Inhabited

structure Report where
  /-- The moment, in nanoseconds since 1970. -/
  time : Nat
  device : String
  backend : String
  latency : Latency.Summary
  counters : Counters
  rates : Rates
  ringCapacity : Nat
  deriving Inhabited

namespace Observation

def snapshot (o : Observation) (now : Nat) : Report :=
  ⟨now, o.device, o.backend, o.latency.summary, o.counters, .zero, o.ringCapacity⟩

/-- A report with the rates since the last one. -/
def report (o : Observation) (tracker : RateTracker) (now : Nat) : Report × RateTracker :=
  let report := o.snapshot now
  let (rates, tracker) := tracker.update now
    ⟨report.latency.count, report.counters.samples, report.counters.framesWritten⟩
  ({ report with rates }, tracker)

end Observation

namespace Report

def latencyValue (s : Latency.Summary) : Value :=
  .table [
    ("count", .int s.count),
    ("min_ns", .int s.min.toInt),
    ("max_ns", .int s.max.toInt),
    ("avg_ns", .int s.avg.toInt),
    ("p50_ns", .int s.p50.toInt),
    ("p95_ns", .int s.p95.toInt),
    ("p99_ns", .int s.p99.toInt),
    ("deadline_misses", .int s.misses)]

def ratesValue (r : Rates) : Value :=
  .table [
    ("cycle_hz", .float r.cycles),
    ("samples_per_sec", .float r.samples),
    ("frames_per_sec", .float r.frames)]

def toValue (r : Report) : Value :=
  .table [
    ("timestamp", .text (Clock.text r.time)),
    ("device", .text r.device),
    ("backend", .text r.backend),
    ("latency", latencyValue r.latency),
    ("counters", .table (r.counters.toList.map fun (name, n) => (name, .int n))),
    ("rates", ratesValue r.rates),
    ("ring_capacity", .int r.ringCapacity)]

def message (r : Report) (topic : String) : Message := ⟨topic, Bytes.ofText (Json.write r.toValue)⟩

end Report

end Telemetry
