import Telemetry.Ring.Reading
import Telemetry.Transfer.Receiver

/-!
# The consumer's loop

The consumer reads message after message. When the ring is empty it looks whether it should go on,
and only if not does it end; so whatever was in the ring at that read is read first. A ring that is
damaged ends it at once. The steps of the loop are one read with all that follows from it, and one
look at the flag, and anything may happen between two of them, a write and the request to stop too.
-/

namespace Telemetry

/-- Where the loop of a consumer stands. -/
inductive WorkerPhase where
  | reading
  /-- The ring was empty, the next step is a look at the flag. -/
  | checking
  | stopped
  deriving DecidableEq, Repr, Inhabited

/-- A consumer that drains a ring into a receiver. -/
structure Worker where
  receiver : Receiver
  phase : WorkerPhase
  deriving DecidableEq, Repr, Inhabited

namespace Worker

def start (receiver : Receiver) : Worker := ⟨receiver, .reading⟩

def isRunning (w : Worker) : Bool := w.phase != .stopped

/-- What follows from a read that left `fill` bytes unread. -/
def settle {σ : Type} (publisher : Publisher σ) (w : Worker) (state : σ) (fill : Nat) :
    Except RingError Bytes → Worker × σ
  | .ok message =>
    match (w.receiver.noteFill fill).handle publisher state message with
    | (.ok _, receiver, state) => ({ w with receiver }, state)
    | (.error _, receiver, state) => ({ w with receiver := receiver.countError }, state)
  | .error .empty => (⟨w.receiver.noteFill 0, .checking⟩, state)
  | .error _ => ({ w with phase := .stopped }, state)

def attempt {σ : Type} (publisher : Publisher σ) (w : Worker) (ring : Ring) (state : σ) :
    Worker × Ring × σ :=
  let (outcome, ring) := ring.read
  let (w, state) := w.settle publisher state ring.availableRead outcome
  (w, ring, state)

def check (w : Worker) (running : Bool) : Worker :=
  if w.phase = .checking then { w with phase := if running then .reading else .stopped } else w

def step {σ : Type} (publisher : Publisher σ) (running : Bool) (w : Worker) (ring : Ring)
    (state : σ) : Worker × Ring × σ :=
  if w.phase = .reading then w.attempt publisher ring state else (w.check running, ring, state)

/-- Reads until the ring is empty or damaged: as long as reads shorten the backlog, which those that
take a message do. -/
def catchUp {σ : Type} (publisher : Publisher σ) (w : Worker) (ring : Ring) (state : σ) :
    Worker × Ring × σ :=
  if w.phase ≠ .reading then (w, ring, state)
  else
    let next := w.attempt publisher ring state
    if next.2.1.backlog < ring.backlog then catchUp publisher next.1 next.2.1 next.2.2 else next
termination_by ring.backlog

/-- What a consumer does that is told to stop: it reads what is left, and ends. -/
def drain {σ : Type} (publisher : Publisher σ) (w : Worker) (ring : Ring) (state : σ) :
    Worker × Ring × σ :=
  let (w, ring, state) := w.catchUp publisher ring state
  (w.check false, ring, state)

end Worker

end Telemetry
