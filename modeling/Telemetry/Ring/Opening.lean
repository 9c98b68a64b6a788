import Telemetry.SharedMemory
import Telemetry.Ring.Basic

/-!
# Opening rings in shared memory

The first opener of a name creates the segment and makes a ring of it; later ones attach to it and
have to ask for the same capacity. Opening is a sequence of steps, each of which is one call of the
operating system or one visible change of the segment, and the steps of several openers alternate
in any order. Creating: make the name, give the segment its size, map it and fill it with zeros,
store the cursors, publish the capacity. Attaching: open the name, ask for the size and map the
segment, load the capacity.
-/

namespace Telemetry.Ring

/-- An opened ring: the segment it lies in, its capacity, and whether its opener created it. -/
structure Handle where
  segment : Nat
  capacity : Nat
  created : Bool
  deriving DecidableEq, Repr, Inhabited

namespace Handle

def ring (h : Handle) (s : SharedMemory) : Ring := ⟨h.capacity, s.segment h.segment⟩

def put (h : Handle) (s : SharedMemory) (r : Ring) : SharedMemory :=
  s.modify h.segment fun _ => r.memory

def work {α : Type} (h : Handle) (s : SharedMemory) (f : Ring → α × Ring) : α × SharedMemory :=
  let (a, r) := f (h.ring s)
  (a, h.put s r)

end Handle

/-! ## Names -/

/-- Checks that a text names a segment: a slash and then at least one other character, none of them
a slash, and 255 bytes at most. -/
def checkName (name : String) : Except RingError Unit :=
  match name.toList with
  | '/' :: rest =>
    if rest.isEmpty || rest.contains '/' then
      .error (.invalidName s!"must be '/' followed by a non-empty name without '/': {name}")
    else if 255 < name.utf8ByteSize then
      .error (.invalidName s!"longer than 255 characters: {name}")
    else if rest.contains '\x00' then .error (.invalidName name)
    else .ok ()
  | _ => .error (.invalidName s!"must start with '/': {name}")

/-! ## Steps -/

/-- How far the opening of a ring has come. -/
inductive Opening where
  | start
  /-- The name is this opener's, the segment has no size yet. -/
  | named (id : Nat)
  | sized (id : Nat)
  | zeroed (id : Nat)
  | cursorsStored (id : Nat)
  /-- The name is another opener's. -/
  | taken
  | attached (id : Nat)
  | mapped (id size : Nat)
  | finished (outcome : Except RingError Handle)
  deriving Inhabited

namespace Opening

def remaining : Opening → Nat
  | start => 5
  | named _ => 4
  | sized _ => 3
  | zeroed _ => 2
  | cursorsStored _ => 1
  | taken => 3
  | attached _ => 2
  | mapped .. => 1
  | finished _ => 0

def failed (e : SystemError) (s : SharedMemory) : Opening × SharedMemory :=
  (finished (.error (.segment e)), s)

/-- The size that a segment with a recorded capacity has to have. The sum is a 64-bit word: within
192 of its end it wraps around. -/
def neededSize (found : Nat) : Nat := (UInt64.ofNat controlSize + UInt64.ofNat found).toNat

/-- What an attaching opener makes of the capacity it finds in a mapped segment. -/
def judge (name : String) (capacity id size found : Nat) : Except RingError Handle :=
  if size < controlSize ∨ found = 0 ∨ size < neededSize found then .error (.notInitialized name)
  else if found ≠ capacity then .error (.capacityMismatch capacity found)
  else .ok ⟨id, capacity, false⟩

def step (name : String) (capacity : Nat) : Opening → SharedMemory → Opening × SharedMemory
  | start, s =>
    match s.createExclusive name with
    | (.ok id, s) => (named id, s)
    | (.error e, s) => if e = .exists_ then (taken, s) else failed e s
  | named id, s =>
    match s.resize id (controlSize + capacity) with
    | (.ok (), s) => (sized id, s)
    | (.error e, s) => failed e s
  | sized id, s =>
    match s.map with
    | (.ok (), s) => (zeroed id, s.modify id fun m => Memory.zeroed m.size)
    | (.error e, s) => failed e s
  | zeroed id, s => (cursorsStored id, s.modify id resetCursors)
  | cursorsStored id, s =>
    (finished (.ok ⟨id, capacity, true⟩), s.modify id fun m => publishCapacity m capacity)
  | taken, s =>
    match s.openExisting name with
    | (.ok id, s) => (attached id, s)
    | (.error e, s) => failed e s
  | attached id, s =>
    match s.stat id with
    | (.error e, s) => failed e s
    | (.ok size, s) =>
      if size = 0 then (finished (.error (.notInitialized name)), s)
      else
        match s.map with
        | (.ok (), s) => (mapped id size, s)
        | (.error e, s) => failed e s
  | mapped id size, s =>
    (finished (judge name capacity id size (recordedCapacity (s.segment id))), s)
  | finished outcome, s => (finished outcome, s)

theorem remaining_step_lt (name : String) (capacity : Nat) (o : Opening) (s : SharedMemory)
    (h : 0 < o.remaining) : (step name capacity o s).1.remaining < o.remaining := by
  cases o <;> simp only [step, failed] <;> (repeat' split) <;> simp_all [remaining]

def run (name : String) (capacity : Nat) (o : Opening) (s : SharedMemory) :
    Except RingError Handle × SharedMemory :=
  match _h : o with
  | finished outcome => (outcome, s)
  | start | named _ | sized _ | zeroed _ | cursorsStored _ | taken | attached _ | mapped .. =>
    let next := step name capacity o s
    run name capacity next.1 next.2
termination_by o.remaining
decreasing_by all_goals
  subst _h
  exact remaining_step_lt _ _ _ _ (by simp [remaining])

end Opening

/-- Creates the ring of a name, or attaches to it. -/
def openShared (s : SharedMemory) (name : String) (capacity : Nat) :
    Except RingError Handle × SharedMemory :=
  match checkCapacity capacity, checkName name with
  | .error e, _ => (.error e, s)
  | .ok _, .error e => (.error e, s)
  | .ok _, .ok _ => Opening.run name capacity .start s

def openPrivate (s : SharedMemory) (capacity : Nat) : Except RingError Handle × SharedMemory :=
  match create capacity with
  | .error e => (.error e, s)
  | .ok r =>
    let (id, s) := s.allocate r.memory
    (.ok ⟨id, capacity, true⟩, s)

/-- Removes a name; a name that is not bound is no error. -/
def unlink (s : SharedMemory) (name : String) : Except RingError Unit × SharedMemory :=
  match checkName name with
  | .error e => (.error e, s)
  | .ok _ =>
    match s.remove name with
    | (.ok (), s) => (.ok (), s)
    | (.error e, s) => if e = .notFound then (.ok (), s) else (.error (.segment e), s)

end Telemetry.Ring
