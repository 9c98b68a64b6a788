import Telemetry.Batch
import Telemetry.Error
import Telemetry.Network.Address
import Telemetry.Scheduling.Config

/-!
# The configuration of a bridge

One record for each part of a bridge, with the values that hold where nothing else is said, and the
rules that a whole configuration has to meet. The rules are checked in a fixed order, and the first
one that is broken is reported.
-/

namespace Telemetry

structure DeviceConfig where
  name : String
  target : String
  port : UInt16
  /-- A simulated device delivers once in so many cycles. -/
  sampleEveryCycles : UInt32
  deriving DecidableEq, Repr, Inhabited

def DeviceConfig.standard : DeviceConfig := ⟨"plc-sim", "192.168.3.42", 851, 1⟩

structure RingConfig where
  name : String
  capacity : UInt64
  /-- Whether the ring has memory of its own instead of a shared segment. -/
  inProcess : Bool
  /-- Whether the name of the segment goes when the bridge stops. -/
  unlinkOnExit : Bool
  deriving DecidableEq, Repr, Inhabited

def RingConfig.standard : RingConfig := ⟨"/rt_bridge_ring", 1048576, false, true⟩

inductive PublishMode where
  /-- Each variable on a topic of its own. -/
  | perVariable
  /-- The whole frame on one topic. -/
  | frame
  deriving DecidableEq, Repr, Inhabited

def PublishMode.configName : PublishMode → String
  | perVariable => "per_variable"
  | frame => "frame"

structure MqttConfig where
  broker : String
  port : UInt16
  clientId : Option String
  topicRoot : String
  keepAliveSecs : UInt64
  queueCapacity : UInt64
  publishMode : PublishMode
  /-- Whether messages are only logged. -/
  dryRun : Bool
  deriving DecidableEq, Repr, Inhabited

def MqttConfig.standard : MqttConfig :=
  ⟨"localhost", 1883, none, "plc", 30, 1024, .perVariable, false⟩

structure MetricsConfig where
  enabled : Bool
  listen : Network.SocketAddress
  deriving DecidableEq, Repr, Inhabited

def MetricsConfig.standard : MetricsConfig := ⟨false, .v4 [0, 0, 0, 0] 9000⟩

structure VariableSpec where
  name : String
  dataType : DataType
  /-- The size of the value, where the type does not fix it. -/
  size : Option UInt64
  deriving DecidableEq, Repr, Inhabited

structure BridgeConfig where
  device : DeviceConfig
  realtime : Scheduling.RealtimeConfig
  ring : RingConfig
  batch : BatchConfig
  compression : Bool
  mqtt : MqttConfig
  metrics : MetricsConfig
  specs : List VariableSpec
  logLevel : String
  logJson : Bool
  statsIntervalMillis : UInt64
  deriving DecidableEq, Repr, Inhabited

namespace BridgeConfig

def standard : BridgeConfig where
  device := .standard
  realtime := .standard
  ring := .standard
  batch := .standard
  compression := true
  mqtt := .standard
  metrics := .standard
  specs := []
  logLevel := "info"
  logJson := false
  statsIntervalMillis := 1000

def trialVariables : List VariableSpec :=
  [⟨"GVL.running", .bool, none⟩, ⟨"GVL.cycle_count", .uint32, none⟩,
    ⟨"GVL.temperature", .real32, none⟩, ⟨"GVL.pressure", .real64, none⟩,
    ⟨"GVL.position", .int32, none⟩]

/-- The variables to sample; the trial set if none are configured. -/
def sampledVariables (c : BridgeConfig) : List VariableSpec :=
  if c.specs.isEmpty then trialVariables else c.specs

def validate (c : BridgeConfig) : Except BridgeError Unit := do
  match c.realtime.validate with
  | .error e => throw (.invalidConfig e.message)
  | .ok () => pure ()
  if c.batch.maxSize = 0 then throw (.invalidConfig "batch.max_batch_size must be positive")
  if c.device.sampleEveryCycles = 0 then
    throw (.invalidConfig "device.sample_every_cycles must be positive")
  if c.statsIntervalMillis = 0 then throw (.invalidConfig "stats_interval_ms must be positive")
  if c.mqtt.topicRoot.isEmpty then throw (.invalidConfig "mqtt.topic_prefix must not be empty")

end BridgeConfig

end Telemetry
