import Telemetry.Report.Basic

/-!
# Metrics

What a report leaves in the metrics: totals, which never go back, and gauges, which show the last
value.
-/

namespace Telemetry

structure Metrics where
  totals : List (String × Nat)
  gauges : List (String × Float)
  deriving Inhabited

namespace Report

def totals (r : Report) : List (String × Nat) :=
  [("bridge_samples_total", r.counters.samples),
    ("bridge_frames_written_total", r.counters.framesWritten),
    ("bridge_bytes_written_total", r.counters.bytesWritten),
    ("bridge_frames_dropped_total", r.counters.framesDropped),
    ("bridge_frames_rejected_total", r.counters.framesRejected),
    ("bridge_messages_published_total", r.counters.messagesPublished),
    ("bridge_publish_failures_total", r.counters.publishFailures),
    ("bridge_decode_errors_total", r.counters.decodeErrors),
    ("bridge_frames_lost_total", r.counters.framesLost),
    ("bridge_deadline_misses_total", r.latency.misses)]

def gauges (r : Report) : List (String × Float) :=
  [("bridge_ring_fill_bytes", RateTracker.toFloat r.counters.ringFill),
    ("bridge_cycle_latency_min_us", Latency.micros r.latency.min),
    ("bridge_cycle_latency_avg_us", Latency.micros r.latency.avg),
    ("bridge_cycle_latency_max_us", Latency.micros r.latency.max),
    ("bridge_cycle_latency_p50_us", Latency.micros r.latency.p50),
    ("bridge_cycle_latency_p95_us", Latency.micros r.latency.p95),
    ("bridge_cycle_latency_p99_us", Latency.micros r.latency.p99),
    ("bridge_cycle_hz", r.rates.cycles),
    ("bridge_samples_per_sec", r.rates.samples),
    ("bridge_frames_per_sec", r.rates.frames)]

end Report

namespace Metrics

def empty : Metrics := ⟨[], []⟩

/-- Records a report. -/
def record (m : Metrics) (r : Report) : Metrics where
  totals := r.totals.map fun (name, n) => (name, max n ((m.totals.lookup name).getD 0))
  gauges := r.gauges

end Metrics

end Telemetry
