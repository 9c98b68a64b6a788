import Telemetry.Report.Basic
import Telemetry.Ring.Opening
import Telemetry.Scheduling.Task
import Telemetry.Simulation
import Telemetry.Transfer.Sender
import Telemetry.Transfer.Worker

/-!
# Bridges

A bridge polls a device on a periodic task, and carries the samples through a ring to a consumer
that publishes them. The ring is opened before anything is started, and the consumer starts before
the task; stopping goes the other way round, and drains the ring. A bridge owns the name of its
ring if it made the segment, and takes the name away when it stops, or fails to start, if it is
configured to. A name that it does not own it leaves alone.
-/

namespace Telemetry

/-- Where bridges run: a process, the shared memory it sees, a host for its threads, and the state
of its publisher. -/
structure Site (σ : Type) where
  process : Nat
  memory : SharedMemory
  host : Scheduling.Host
  published : σ
  deriving Inhabited

structure Bridge where
  config : BridgeConfig
  device : SimulatedDevice
  ring : Ring.Handle
  /-- Whether the bridge made the segment of a shared ring. -/
  owned : Bool
  backend : Scheduling.Backend
  task : Scheduling.Task
  sender : Sender
  worker : Worker
  stopped : Bool
  deriving Inhabited

namespace Bridge

variable {σ : Type}

/-! ## The ring -/

def openRing (config : RingConfig) (s : SharedMemory) :
    Except RingError Ring.Handle × SharedMemory :=
  if config.inProcess then Ring.openPrivate s config.capacity.toNat
  else Ring.openShared s config.name config.capacity.toNat

/-- Whether the opener of a ring owns its name. -/
def owns (config : RingConfig) (ring : Ring.Handle) : Bool := !config.inProcess && ring.created

/-- Takes the name of a ring away, if it is owned and that is asked for. A failure to do so has no
consequences. -/
def releaseRing (config : RingConfig) (owned : Bool) (s : SharedMemory) : SharedMemory :=
  if owned && config.unlinkOnExit then (Ring.unlink s config.name).2 else s

def claim (process : Nat) (ring : Ring.Handle) (s : SharedMemory) : SharedMemory :=
  ring.put s (((ring.ring s).claimReader process).claimWriter process)

/-! ## Parts that work on the ring -/

def catchUp (publisher : Publisher σ) (b : Bridge) (site : Site σ) : Bridge × Site σ :=
  let (worker, ring, published) :=
    b.worker.catchUp publisher (b.ring.ring site.memory) site.published
  ({ b with worker := worker }, { site with memory := b.ring.put site.memory ring, published })

/-- The consumer reads what is in the ring, and looks whether it should go on. -/
def consume (publisher : Publisher σ) (running : Bool) (b : Bridge) (site : Site σ) :
    Bridge × Site σ :=
  let (b, site) := b.catchUp publisher site
  ({ b with worker := b.worker.check running }, site)

def send (f : Sender → Ring → Sender × Ring) (b : Bridge) (site : Site σ) : Bridge × Site σ :=
  let (sender, ring) := f b.sender (b.ring.ring site.memory)
  ({ b with sender }, { site with memory := b.ring.put site.memory ring })

/-! ## Starting -/

/-- The parts of a bridge around an open ring, nothing started. -/
def assemble (config : BridgeConfig) (registry : Registry) (ring : Ring.Handle)
    (backend : Scheduling.Backend) (now : Nat) : Bridge where
  config
  device := .new config.device.name registry config.device.sampleEveryCycles.toNat
  ring
  owned := owns config.ring ring
  backend
  task := .new config.realtime
  sender := .new (.empty config.batch ⟨0, config.compression⟩ now)
  worker := .start (.new config.mqtt.topicRoot config.mqtt.publishMode)
  stopped := false

/-- Starts the task of an assembled bridge; where that fails, the consumer is stopped and the ring
released. -/
def launch (publisher : Publisher σ) (b : Bridge) (site : Site σ) :
    Except BridgeError Bridge × Site σ :=
  let site := { site with memory := claim site.process b.ring site.memory }
  match b.task.start site.host with
  | (.ok (), task, host) => (.ok { b with task }, { site with host })
  | (.error e, _, host) =>
    let (b, site) := b.consume publisher false { site with host }
    (.error (.scheduler e),
      { site with memory := releaseRing b.config.ring b.owned site.memory })

def start (publisher : Publisher σ) (config : BridgeConfig) (now : Nat) (site : Site σ) :
    Except BridgeError Bridge × Site σ :=
  match config.validate, Registry.ofSpecs config.sampledVariables with
  | .error e, _ => (.error e, site)
  | .ok (), .error e => (.error e, site)
  | .ok (), .ok registry =>
    match openRing config.ring site.memory with
    | (.error e, memory) => (.error (.ring e), { site with memory })
    | (.ok ring, memory) =>
      (assemble config registry ring site.host.backend now).launch publisher { site with memory }

/-! ## Running -/

/-- One cycle at a time: a poll, whose samples are sent, and the consumer catches up. -/
def cycle (publisher : Publisher σ) (now : Nat) (b : Bridge) (site : Site σ) : Bridge × Site σ :=
  let (samples, delivered, device) := b.device.poll now
  let (b, site) := send (fun s ring => s.cycle now (samples.map (·.toVariable)) delivered ring)
    { b with device } site
  b.consume publisher true site

/-- The loop of the task from now on: a cycle for each wake-up, the calls taking no time and the
wake-ups coming so late. Gives the time at which it waits after the last of them. -/
def run (publisher : Publisher σ) (now : Nat) (late : List Nat) (b : Bridge) (site : Site σ) :
    Bridge × Site σ × Nat :=
  let pace := b.config.realtime.pace
  let (loop, b, site) := late.foldl
    (fun (loop, b, site) late =>
      let (b, site) := b.cycle publisher loop.now site
      (loop.cycle pace 0 late, b, site))
    (Scheduling.Loop.start pace now b.task.statistics, b, site)
  ({ b with task := { b.task with statistics := loop.statistics } }, site, loop.now)

/-! ## Stopping -/

/-- Stops a bridge, if it is not stopped yet: the task, whose sender is given up, then the consumer,
which reads what is left, and releases the ring. -/
def stop (publisher : Publisher σ) (now : Nat) (b : Bridge) (site : Site σ) : Bridge × Site σ :=
  if b.stopped then (b, site)
  else
    let (task, host) := b.task.stop site.host
    let (b, site) := send (·.drop now) { b with task, stopped := true } { site with host }
    let (b, site) := b.consume publisher false site
    (b, { site with memory := releaseRing b.config.ring b.owned site.memory })

/-! ## What a bridge says of itself -/

def isRunning (b : Bridge) : Bool := b.task.isRunning && !b.stopped && b.worker.isRunning

def registry (b : Bridge) : Registry := b.device.registry

def counters (b : Bridge) : Counters := ⟨b.sender.counts, b.worker.receiver.counts⟩

def observe (b : Bridge) : Observation :=
  ⟨b.config.device.name, b.backend.name, b.task.statistics, b.counters, b.ring.capacity⟩

end Bridge

end Telemetry
