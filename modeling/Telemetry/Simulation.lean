import Telemetry.Clock
import Telemetry.Registry
import Telemetry.Variable

/-!
# Simulated devices

A simulated device delivers every registered variable once in so many polls, in the order of their
registration, and nothing in the other polls. The deliveries are numbered from one, and a value
follows from the number of its delivery: truth values toggle, integers count up modulo their width,
reals rise and fall back, texts and custom values roll through the alphabet.
-/

namespace Telemetry

/-- A value that a device delivers, with the index of its variable in the registry. -/
structure Sample extends Variable where
  index : Nat
  deriving DecidableEq, Repr, Inhabited

structure SimulatedDevice where
  name : String
  registry : Registry
  /-- The device delivers once in so many polls, which is never zero. -/
  every : Nat
  cycle : Nat
  deriving Inhabited

namespace SimulatedDevice

/-- A device that was not polled yet. Once in no polls counts as once in one. -/
def new (name : String) (registry : Registry) (every : Nat) : SimulatedDevice :=
  ⟨name, registry, max 1 every, 0⟩

/-- A letter of the alphabet, which starts over after its end. -/
def letter (n : Nat) : UInt8 := UInt8.ofNat ('a'.toNat + n % 26)

def value (dataType : DataType) (size delivery : Nat) : Bytes :=
  match dataType with
  | .bool => Bytes.ofNat 1 (delivery % 2)
  | .uint8 => Bytes.ofNat 1 delivery
  | .uint16 | .int16 => Bytes.ofNat 2 delivery
  | .uint32 | .int32 => Bytes.ofNat 4 delivery
  | .int64 => Bytes.ofNat 8 delivery
  | .real32 => Bytes.ofNat 4 (20 + (delivery % 100).toUInt64.toFloat32 * 0.1).toBits.toNat
  | .real64 => Bytes.ofNat 8 (1 + (delivery % 1000).toUInt64.toFloat * 0.001).toBits.toNat
  | .text | .custom => (List.range size).map fun i => letter (delivery + i)

def sample (delivery now : Nat) (v : RegisteredVariable) : Sample where
  index := v.index
  name := v.name
  dataType := v.dataType
  value := value v.dataType v.size delivery
  timestamp := Clock.stamp now

/-- Whether the device delivers with the poll it was last asked for. -/
def delivers (d : SimulatedDevice) : Bool := d.cycle % d.every == 0

/-- Delivers a variable behind those that were delivered and counted. -/
def deliverNext (delivery now : Nat) (delivered : Array Sample × Nat) (v : RegisteredVariable) :
    Array Sample × Nat :=
  (delivered.1.push (sample delivery now v), delivered.2 + 1)

def deliver (delivery now : Nat) (vs : List RegisteredVariable) : Array Sample × Nat :=
  vs.foldl (deliverNext delivery now) (#[], 0)

/-- Polls the device: what it delivers, how many samples it says these are, and the device after
that. -/
def poll (d : SimulatedDevice) (now : Nat) : List Sample × Nat × SimulatedDevice :=
  let d := { d with cycle := d.cycle + 1 }
  if d.delivers then
    let (samples, delivered) := deliver (d.cycle / d.every) now d.registry.toList
    (samples.toList, delivered, d)
  else ([], 0, d)

end SimulatedDevice

end Telemetry
