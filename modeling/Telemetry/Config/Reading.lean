import Telemetry.Config.Basic
import Telemetry.Decimal.Shortest
import Telemetry.Value

/-!
# Fitting values to configurations

A configuration is read out of a value. Keys that are not known are left alone, keys that are
missing take their standard values, and a record may also be an array of its fields in order. Under
the strict rules a value has to be of the kind of its field; under the lenient ones, which hold for
files and the environment, numbers, booleans and words are turned into each other where that makes
sense.
-/

namespace Telemetry.Config

/-- How values are fitted to fields. -/
inductive Rules where
  | strict
  | lenient
  deriving DecidableEq, Repr, Inhabited

abbrev Reader (α : Type) := Rules → Value → Option α

/-! ## Numbers, booleans and words -/

def wordBool? (s : String) : Option Bool :=
  let s := s.toLower
  if ["true", "on", "yes"].contains s then some true
  else if ["false", "off", "no"].contains s then some false
  else none

/-- A boolean; leniently also a number that is zero or not, or a word. -/
def readBool : Reader Bool
  | _, .bool b => some b
  | .lenient, .int n => some (n != 0)
  | .lenient, .float x => some (x != 0.0)
  | .lenient, .text "1" => some true
  | .lenient, .text "0" => some false
  | .lenient, .text s => wordBool? s
  | _, _ => none

def ofBool (b : Bool) : Nat := if b then 1 else 0

/-- A natural number of 64 bits; leniently also a boolean, a number rounded to the nearest one, or
a word or digits. -/
def lenientNat? : Value → Option Nat
  | .int n => if 0 ≤ n then some n.toNat else none
  | .bool b => some (ofBool b)
  | .float x => some x.round.toUInt64.toNat
  | .text s => ((wordBool? s).map ofBool).or (Decimal.readNat64? s)
  | _ => none

/-- An integer of 64 bits; leniently also a boolean, a number rounded to the nearest one, or a word
or digits. -/
def lenientInt? : Value → Option Int
  | .int n => some n
  | .bool b => some (ofBool b)
  | .float x => some x.round.toInt64.toInt
  | .text s => ((wordBool? s).map fun b => (ofBool b : Int)).or (Decimal.readInt64? s)
  | _ => none

/-- Files and the environment know no integers beyond 63 bits: those are doubles. -/
def lenientNumber : Value → Value
  | .int n => if n ≤ Int64.maxValue.toInt then .int n else .float (Float.ofInt n)
  | v => v

def readNat (bound : Nat) : Reader Nat
  | .strict, .int n => if 0 ≤ n ∧ n < bound then some n.toNat else none
  | .strict, _ => none
  | .lenient, v => (lenientNat? (lenientNumber v)).filter (· < bound)

def readUInt16 : Reader UInt16 := fun r v => (readNat UInt16.size r v).map UInt16.ofNat

def readUInt32 : Reader UInt32 := fun r v => (readNat UInt32.size r v).map UInt32.ofNat

def readUInt64 : Reader UInt64 := fun r v => (readNat UInt64.size r v).map UInt64.ofNat

def readInt32 : Reader Int32
  | .strict, .int n =>
    if Int32.minValue.toInt ≤ n ∧ n ≤ Int32.maxValue.toInt then some (Int32.ofInt n) else none
  | .strict, _ => none
  | .lenient, v =>
    ((lenientInt? (lenientNumber v)).filter fun n =>
      decide (Int32.minValue.toInt ≤ n) && decide (n ≤ Int32.maxValue.toInt)).map
      Int32.ofInt

/-- A text; leniently also a boolean or a number in decimal. -/
def readText : Reader String
  | _, .text s => some s
  | .strict, _ => none
  | .lenient, v =>
    match lenientNumber v with
    | .bool b => some (if b then "true" else "false")
    | .int n => some (toString n)
    | .float x => some (Decimal.text x)
    | _ => none

/-- One of several names, alone or as the only key of a table; leniently in any case. -/
def readChoice {α : Type} (choices : List (String × α)) : Reader α
  | .strict, .text s => choices.lookup s
  | .strict, .table [(s, .null)] => choices.lookup s
  | .lenient, .text s => choices.lookup s.toLower
  | .lenient, .table [(s, _)] => choices.lookup s.toLower
  | _, _ => none

def readOption {α : Type} (read : Reader α) : Reader (Option α)
  | _, .null => some none
  | r, v => (read r v).map some

def readList {α : Type} (read : Reader α) : Reader (List α)
  | r, .array items => items.mapM (read r)
  | _, _ => none

/-! ## Records -/

structure Fields where
  rules : Rules
  get? : String → Option Value

/-- The fields with these names in a table or an array; an array has no more items than there are
fields, at least under the strict rules. -/
def fields (names : List String) : Reader Fields
  | r, .table entries => some ⟨r, fun name => entries.lookup name⟩
  | r, .array items =>
    if r = .strict ∧ names.length < items.length then none
    else some ⟨r, fun name => (names.zip items).lookup name⟩
  | _, _ => none

def Fields.required {α : Type} (f : Fields) (name : String) (read : Reader α) : Option α :=
  (f.get? name).bind (read f.rules)

def Fields.optional {α : Type} (f : Fields) (name : String) (read : Reader α) (standard : α) :
    Option α :=
  match f.get? name with
  | some v => read f.rules v
  | none => some standard

def readDataType : Reader DataType :=
  readChoice (DataType.all.map fun t => (t.configName, t))

def readDevice : Reader DeviceConfig := fun r v => do
  let d := DeviceConfig.standard
  let f ← fields ["name", "target", "port", "sample_every_cycles"] r v
  return {
    name := ← f.optional "name" readText d.name
    target := ← f.optional "target" readText d.target
    port := ← f.optional "port" readUInt16 d.port
    sampleEveryCycles := ← f.optional "sample_every_cycles" readUInt32 d.sampleEveryCycles }

def readPolicy : Reader Scheduling.Policy :=
  readChoice ([Scheduling.Policy.fifo, .roundRobin, .deadline].map fun p => (p.configName, p))

def readBackend : Reader Scheduling.BackendChoice :=
  readChoice ([Scheduling.BackendChoice.auto, .posix, .elevated].map fun b => (b.configName, b))

def readRealtime : Reader Scheduling.RealtimeConfig := fun r v => do
  let d := Scheduling.RealtimeConfig.standard
  let f ← fields ["policy", "priority", "cpu_affinity", "lock_memory", "stack_size_kb",
    "period_us", "max_deviation_us", "backend"] r v
  return {
    policy := ← f.optional "policy" readPolicy d.policy
    priority := ← f.optional "priority" readInt32 d.priority
    cpuAffinity := ← f.optional "cpu_affinity" (readOption readUInt64) d.cpuAffinity
    lockMemory := ← f.optional "lock_memory" readBool d.lockMemory
    stackSizeKb := ← f.optional "stack_size_kb" readUInt64 d.stackSizeKb
    periodMicros := ← f.optional "period_us" readUInt64 d.periodMicros
    maxDeviationMicros := ← f.optional "max_deviation_us" readUInt64 d.maxDeviationMicros
    backend := ← f.optional "backend" readBackend d.backend }

def readRing : Reader RingConfig := fun r v => do
  let d := RingConfig.standard
  let f ← fields ["name", "capacity", "in_process", "unlink_on_exit"] r v
  return {
    name := ← f.optional "name" readText d.name
    capacity := ← f.optional "capacity" readUInt64 d.capacity
    inProcess := ← f.optional "in_process" readBool d.inProcess
    unlinkOnExit := ← f.optional "unlink_on_exit" readBool d.unlinkOnExit }

def readBatch : Reader BatchConfig := fun r v => do
  let d := BatchConfig.standard
  let f ← fields ["max_batch_size", "batch_timeout_us"] r v
  return {
    maxSize := ← f.optional "max_batch_size" readUInt64 d.maxSize
    timeoutMicros := ← f.optional "batch_timeout_us" readUInt64 d.timeoutMicros }

def readCompression : Reader Bool := fun r v => do
  (← fields ["enabled"] r v).optional "enabled" readBool true

def readPublishMode : Reader PublishMode :=
  readChoice ([PublishMode.perVariable, .frame].map fun m => (m.configName, m))

def readMqtt : Reader MqttConfig := fun r v => do
  let d := MqttConfig.standard
  let f ← fields ["broker", "port", "client_id", "topic_prefix", "keep_alive_secs",
    "queue_capacity", "publish_mode", "dry_run"] r v
  return {
    broker := ← f.optional "broker" readText d.broker
    port := ← f.optional "port" readUInt16 d.port
    clientId := ← f.optional "client_id" (readOption readText) d.clientId
    topicRoot := ← f.optional "topic_prefix" readText d.topicRoot
    keepAliveSecs := ← f.optional "keep_alive_secs" readUInt64 d.keepAliveSecs
    queueCapacity := ← f.optional "queue_capacity" readUInt64 d.queueCapacity
    publishMode := ← f.optional "publish_mode" readPublishMode d.publishMode
    dryRun := ← f.optional "dry_run" readBool d.dryRun }

/-- A socket address, written as a text. -/
def readAddress : Reader Network.SocketAddress := fun r v =>
  (readText r v).bind Network.SocketAddress.parse?

def readMetrics : Reader MetricsConfig := fun r v => do
  let d := MetricsConfig.standard
  let f ← fields ["enabled", "listen"] r v
  return {
    enabled := ← f.optional "enabled" readBool d.enabled
    listen := ← f.optional "listen" readAddress d.listen }

/-- A variable; its name and its type have to be there. -/
def readVariable : Reader VariableSpec := fun r v => do
  let f ← fields ["name", "data_type", "size"] r v
  return {
    name := ← f.required "name" readText
    dataType := ← f.required "data_type" readDataType
    size := ← f.optional "size" (readOption readUInt64) none }

def read : Reader BridgeConfig := fun r v => do
  let d := BridgeConfig.standard
  let f ← fields ["device", "realtime", "ring", "batch", "compression", "mqtt", "metrics",
    "variables", "log_level", "log_json", "stats_interval_ms"] r v
  return {
    device := ← f.optional "device" readDevice d.device
    realtime := ← f.optional "realtime" readRealtime d.realtime
    ring := ← f.optional "ring" readRing d.ring
    batch := ← f.optional "batch" readBatch d.batch
    compression := ← f.optional "compression" readCompression d.compression
    mqtt := ← f.optional "mqtt" readMqtt d.mqtt
    metrics := ← f.optional "metrics" readMetrics d.metrics
    specs := ← f.optional "variables" (readList readVariable) d.specs
    logLevel := ← f.optional "log_level" readText d.logLevel
    logJson := ← f.optional "log_json" readBool d.logJson
    statsIntervalMillis := ← f.optional "stats_interval_ms" readUInt64 d.statsIntervalMillis }

end Telemetry.Config
