import Telemetry.Transfer.Receiver
import Telemetry.Transfer.Sender
import Telemetry.Ring.Reading

/-!
# Transfers

A sender and a receiver with a ring between them. What happens to a transfer is a sequence of
events, in any order: a cycle of the sender, a flush, the receipt of one message, and the end of the
sender. A source is taken at its word here: it reports as many samples as it delivers.
-/

namespace Telemetry

/-- A sender, a ring, a receiver and the state of its publisher. -/
structure Transfer (σ : Type) where
  sender : Sender
  ring : Ring
  receiver : Receiver
  published : σ
  deriving Inhabited

namespace Transfer

variable {σ : Type}

def cycle (t : Transfer σ) (now : Nat) (samples : List Variable) : Transfer σ :=
  let (sender, ring) := t.sender.cycle now samples samples.length t.ring
  { t with sender, ring }

def flush (t : Transfer σ) (now : Nat) : Transfer σ :=
  let (sender, ring) := t.sender.flush now t.ring
  { t with sender, ring }

def drop (t : Transfer σ) (now : Nat) : Transfer σ :=
  let (sender, ring) := t.sender.drop now t.ring
  { t with sender, ring }

def handle (publisher : Publisher σ) (t : Transfer σ) (message : Bytes) :
    Except BridgeError Nat × Transfer σ :=
  let (outcome, receiver, published) := t.receiver.handle publisher t.published message
  (outcome, { t with receiver, published })

/-- Takes one message from the ring and handles it: the message and what came of it. -/
def consume (publisher : Publisher σ) (t : Transfer σ) :
    Except RingError (Bytes × Except BridgeError Nat) × Transfer σ :=
  match t.ring.read with
  | (.error e, ring) => (.error e, { t with ring })
  | (.ok message, ring) =>
    let (outcome, t) := handle publisher { t with ring } message
    (.ok (message, outcome), t)

inductive Event where
  | cycle (now : Nat) (samples : List Variable)
  | flush (now : Nat)
  | consume
  | drop (now : Nat)
  deriving DecidableEq, Repr, Inhabited

def step (publisher : Publisher σ) (t : Transfer σ) : Event → Transfer σ
  | .cycle now samples => t.cycle now samples
  | .flush now => t.flush now
  | .consume => (t.consume publisher).2
  | .drop now => t.drop now

def run (publisher : Publisher σ) (t : Transfer σ) (events : List Event) : Transfer σ :=
  events.foldl (step publisher) t

end Transfer

end Telemetry
