import Telemetry.Config.Basic
import Telemetry.Value

/-!
# Configurations as values

The value that says a configuration in full, all fields named.
-/

namespace Telemetry.Config

def writeNat (n : Nat) : Value := .int n

def writeOption {α : Type} (write : α → Value) : Option α → Value
  | some a => write a
  | none => .null

def writeRealtime (c : Scheduling.RealtimeConfig) : Value :=
  .table [
    ("policy", .text c.policy.configName),
    ("priority", .int c.priority.toInt),
    ("cpu_affinity", writeOption (fun n => writeNat n.toNat) c.cpuAffinity),
    ("lock_memory", .bool c.lockMemory),
    ("stack_size_kb", writeNat c.stackSizeKb.toNat),
    ("period_us", writeNat c.periodMicros.toNat),
    ("max_deviation_us", writeNat c.maxDeviationMicros.toNat),
    ("backend", .text c.backend.configName)]

def writeMqtt (c : MqttConfig) : Value :=
  .table [
    ("broker", .text c.broker),
    ("port", writeNat c.port.toNat),
    ("client_id", writeOption .text c.clientId),
    ("topic_prefix", .text c.topicRoot),
    ("keep_alive_secs", writeNat c.keepAliveSecs.toNat),
    ("queue_capacity", writeNat c.queueCapacity.toNat),
    ("publish_mode", .text c.publishMode.configName),
    ("dry_run", .bool c.dryRun)]

def writeVariable (s : VariableSpec) : Value :=
  .table [
    ("name", .text s.name),
    ("data_type", .text s.dataType.configName),
    ("size", writeOption (fun n => writeNat n.toNat) s.size)]

def write (c : BridgeConfig) : Value :=
  .table [
    ("device", .table [
      ("name", .text c.device.name),
      ("target", .text c.device.target),
      ("port", writeNat c.device.port.toNat),
      ("sample_every_cycles", writeNat c.device.sampleEveryCycles.toNat)]),
    ("realtime", writeRealtime c.realtime),
    ("ring", .table [
      ("name", .text c.ring.name),
      ("capacity", writeNat c.ring.capacity.toNat),
      ("in_process", .bool c.ring.inProcess),
      ("unlink_on_exit", .bool c.ring.unlinkOnExit)]),
    ("batch", .table [
      ("max_batch_size", writeNat c.batch.maxSize.toNat),
      ("batch_timeout_us", writeNat c.batch.timeoutMicros.toNat)]),
    ("compression", .table [("enabled", .bool c.compression)]),
    ("mqtt", writeMqtt c.mqtt),
    ("metrics", .table [
      ("enabled", .bool c.metrics.enabled),
      ("listen", .text c.metrics.listen.write)]),
    ("variables", .array (c.specs.map writeVariable)),
    ("log_level", .text c.logLevel),
    ("log_json", .bool c.logJson),
    ("stats_interval_ms", writeNat c.statsIntervalMillis.toNat)]

end Telemetry.Config
