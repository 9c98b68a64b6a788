import Std.Data.HashMap
import Telemetry.Config.Basic

/-!
# The registry of variables

Variables are registered one after another, and each gets the next index. A name is 1 to 65535
bytes long and is registered once. The size of a value is the one that its type fixes, and a size
that is given has to agree with it; other types need a positive size.
-/

namespace Telemetry

structure RegisteredVariable where
  index : Nat
  name : String
  dataType : DataType
  size : Nat
  deriving DecidableEq, Repr, Inhabited

/-- The variables that are registered, and where each name is among them. -/
structure Registry where
  entries : Array RegisteredVariable
  indices : Std.HashMap String Nat
  deriving Inhabited

namespace Registry

def empty : Registry := ⟨#[], ∅⟩

def size (r : Registry) : Nat := r.entries.size

def get? (r : Registry) (index : Nat) : Option RegisteredVariable := r.entries[index]?

def lookup? (r : Registry) (name : String) : Option Nat := r.indices[name]?

/-- The variables in the order of their registration. -/
def toList (r : Registry) : List RegisteredVariable := r.entries.toList

def checkSize (name : String) (dataType : DataType) (size : Option UInt64) :
    Except BridgeError Nat :=
  match dataType.fixedSize?, size with
  | some fixed, none => .ok fixed
  | some fixed, some given =>
    if fixed = given.toNat then .ok fixed
    else .error (.invalidVariable name s!"{dataType.name} is {fixed} bytes, not {given.toNat}")
  | none, some given =>
    if 0 < given.toNat then .ok given.toNat
    else .error (.invalidVariable name s!"{dataType.name} needs a positive size")
  | none, none => .error (.invalidVariable name s!"{dataType.name} needs a positive size")

/-- Registers a variable, and gives its index. -/
def register (r : Registry) (spec : VariableSpec) : Except BridgeError (Nat × Registry) := do
  if spec.name.isEmpty || decide (UInt16.size ≤ spec.name.utf8ByteSize) then
    throw (.invalidVariable spec.name "name must be 1 to 65535 bytes")
  if (r.lookup? spec.name).isSome then throw (.duplicateVariable spec.name)
  let size ← checkSize spec.name spec.dataType spec.size
  let index := r.size
  return (index, {
    entries := r.entries.push ⟨index, spec.name, spec.dataType, size⟩
    indices := r.indices.insert spec.name index })

def ofSpecs (specs : List VariableSpec) : Except BridgeError Registry :=
  specs.foldlM (fun r spec => (r.register spec).map (·.2)) empty

end Registry

end Telemetry
