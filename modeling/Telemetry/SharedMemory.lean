import Telemetry.Memory
import Telemetry.SystemError

/-!
# Shared memory

Segments of memory, some of which are bound to a name. A segment lives on after its name is gone,
for those who still use it. The calls of the operating system that make, size, map and unbind
segments may be told to fail: by name for as long as a refusal stands, or the next call of a kind.
-/

namespace Telemetry

/-- A call that can be told to fail once. -/
inductive SystemCall where
  | resize
  | map
  | reopen
  | stat
  deriving DecidableEq, Repr, Inhabited

/-- Every segment, the names that are bound to some of them, and the failures to come. -/
structure SharedMemory where
  segments : Array Memory
  names : List (String × Nat)
  refusals : List (String × SystemError)
  /-- The calls that fail once. -/
  faults : List (SystemCall × SystemError)
  deriving Inhabited

namespace SharedMemory

def empty : SharedMemory := ⟨#[], [], [], []⟩

def lookup? (s : SharedMemory) (name : String) : Option Nat := s.names.lookup name

def segment (s : SharedMemory) (id : Nat) : Memory := s.segments.getD id (Memory.zeroed 0)

def modify (s : SharedMemory) (id : Nat) (f : Memory → Memory) : SharedMemory :=
  { s with segments := s.segments.modify id f }

def allocate (s : SharedMemory) (m : Memory) : Nat × SharedMemory :=
  (s.segments.size, { s with segments := s.segments.push m })

def unbind (s : SharedMemory) (name : String) : SharedMemory :=
  { s with names := s.names.filter fun (n, _) => n != name }

def bind (s : SharedMemory) (name : String) (id : Nat) : SharedMemory :=
  { s with names := (name, id) :: (s.unbind name).names }

/-! ## Failures -/

/-- From now on opening and removing a name fails. -/
def refuse (s : SharedMemory) (name : String) (e : SystemError) : SharedMemory :=
  { s with refusals := (name, e) :: s.refusals.filter fun (n, _) => n != name }

def allow (s : SharedMemory) (name : String) : SharedMemory :=
  { s with refusals := s.refusals.filter fun (n, _) => n != name }

/-- The next call of a kind fails. -/
def failNext (s : SharedMemory) (call : SystemCall) (e : SystemError) : SharedMemory :=
  { s with faults := (call, e) :: s.faults.filter fun (c, _) => c != call }

/-- The failure that waits for a call, if one does; it is used up. -/
def takeFault (s : SharedMemory) (call : SystemCall) : Option SystemError × SharedMemory :=
  match s.faults.lookup call with
  | none => (none, s)
  | some e => (some e, { s with faults := s.faults.filter fun (c, _) => c != call })

/-! ## System calls -/

/-- Makes a segment of size zero under a name that is free. -/
def createExclusive (s : SharedMemory) (name : String) : Except SystemError Nat × SharedMemory :=
  match s.refusals.lookup name with
  | some e => (.error e, s)
  | none =>
    if (s.lookup? name).isSome then (.error .exists_, s)
    else
      let (id, s) := s.allocate (Memory.zeroed 0)
      (.ok id, s.bind name id)

/-- Opens the segment that a name is bound to. A refusal of the name comes before a failure that
waits, and leaves it waiting. -/
def openExisting (s : SharedMemory) (name : String) : Except SystemError Nat × SharedMemory :=
  match s.refusals.lookup name with
  | some e => (.error e, s)
  | none =>
    let (fault, s) := s.takeFault .reopen
    match fault, s.lookup? name with
    | some e, _ => (.error e, s)
    | none, none => (.error .notFound, s)
    | none, some id => (.ok id, s)

/-- Gives a segment a size; what it gains is zero. -/
def resize (s : SharedMemory) (id size : Nat) : Except SystemError Unit × SharedMemory :=
  match s.takeFault .resize with
  | (some e, s) => (.error e, s)
  | (none, s) => (.ok (), s.modify id fun m => { m with size })

def map (s : SharedMemory) : Except SystemError Unit × SharedMemory :=
  match s.takeFault .map with
  | (some e, s) => (.error e, s)
  | (none, s) => (.ok (), s)

def stat (s : SharedMemory) (id : Nat) : Except SystemError Nat × SharedMemory :=
  match s.takeFault .stat with
  | (some e, s) => (.error e, s)
  | (none, s) => (.ok (s.segment id).size, s)

def remove (s : SharedMemory) (name : String) : Except SystemError Unit × SharedMemory :=
  match s.refusals.lookup name, s.lookup? name with
  | some e, _ => (.error e, s)
  | none, none => (.error .notFound, s)
  | none, some _ => (.ok (), s.unbind name)

end SharedMemory

end Telemetry
