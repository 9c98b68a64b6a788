import Telemetry.Bridge.Basic
import Telemetry.Config.Loading
import Telemetry.Config.Writing
import Telemetry.Logging
import Telemetry.Main
import Telemetry.Proofs.Transfer.Conservation
import Telemetry.Proofs.Transfer.Stopping
import Telemetry.Report.Metrics
import Telemetry.Report.Reporter
import Telemetry.Scheduling.Waiting
import Telemetry.Transfer.Basic
import Telemetry.Proofs.Frame.Grammar
import Telemetry.Proofs.Scheduling.Timetable
import Telemetry.Proofs.Ring.Interleaving
import Telemetry.Proofs.Batch.History
import Telemetry.Proofs.Frame.Numbering
import Telemetry.Proofs.Ring.Confinement
import Telemetry.Proofs.Frame.Restoring
import Telemetry.Proofs.Transfer.Losses
import Telemetry.Proofs.Scheduling.LifeCycle
import Telemetry.Proofs.Scheduling.Misses
import Telemetry.Proofs.Latency.Summaries
import Telemetry.Proofs.Bridge.Ownership
import Telemetry.Proofs.Compression.Matching
import Telemetry.Proofs.Compression.Repetition
import Telemetry.Proofs.Compression.Truncation
import Telemetry.Proofs.Frame.Sizes
import Telemetry.Proofs.Frame.Kinds
import Telemetry.Proofs.Transfer.Handling
import Telemetry.Proofs.Transfer.Pending
import Telemetry.Proofs.Device.Delivering
import Telemetry.Proofs.Scheduling.Waiting
