import Telemetry.Ring.Basic

/-!
# Writing to a ring

A write is five steps, each of which touches the memory once: load the write cursor, load the read
cursor, copy in the length, copy in the message, store the write cursor. A message over half the
circle is refused before the first of them, and one that does not fit in what is free after the
second. `write` runs the steps one after another; beside a reader, the steps of the two alternate in
any order.
-/

namespace Telemetry.Ring

/-- How far the write of a message has come. -/
inductive Writing where
  | start
  | cursorLoaded (cursor : UInt64)
  | admitted (cursor : UInt64)
  | lengthCopied (cursor : UInt64)
  | messageCopied (cursor : UInt64)
  | finished (outcome : Except RingError Unit)
  deriving Inhabited

/-- The bytes that a message takes. -/
def footprint (message : Bytes) : Nat := message.length + lengthSize

namespace Writing

def remaining : Writing → Nat
  | start => 5
  | cursorLoaded _ => 4
  | admitted _ => 3
  | lengthCopied _ => 2
  | messageCopied _ => 1
  | finished _ => 0

def step (capacity : Nat) (message : Bytes) : Writing → Memory → Writing × Memory
  | start, m =>
    if capacity / 2 < message.length then
      (finished (.error (.messageTooLarge message.length (capacity / 2))), m)
    else (cursorLoaded (writeCursor m), m)
  | cursorLoaded cursor, m =>
    let needed := footprint message
    let available := capacity - unreadBetween capacity (readCursor m) cursor
    if available < needed then (finished (.error (.full needed available)), m)
    else (admitted cursor, m)
  | admitted cursor, m =>
    (lengthCopied cursor, copyIn capacity m cursor (Bytes.ofNat lengthSize message.length))
  | lengthCopied cursor, m =>
    (messageCopied cursor, copyIn capacity m (cursor + UInt64.ofNat lengthSize) message)
  | messageCopied cursor, m =>
    (finished (.ok ()), setWriteCursor m (cursor + UInt64.ofNat (footprint message)))
  | finished outcome, m => (finished outcome, m)

theorem remaining_step_lt (capacity : Nat) (message : Bytes) (w : Writing) (m : Memory)
    (h : 0 < w.remaining) : (step capacity message w m).1.remaining < w.remaining := by
  cases w <;> simp only [step] <;> (try split) <;> simp_all [remaining]

def run (capacity : Nat) (message : Bytes) (w : Writing) (m : Memory) :
    Except RingError Unit × Memory :=
  match _h : w with
  | finished outcome => (outcome, m)
  | start | cursorLoaded _ | admitted _ | lengthCopied _ | messageCopied _ =>
    let next := step capacity message w m
    run capacity message next.1 next.2
termination_by w.remaining
decreasing_by all_goals
  subst _h
  exact remaining_step_lt _ _ _ _ (by simp [remaining])

end Writing

def write (r : Ring) (message : Bytes) : Except RingError Unit × Ring :=
  let (outcome, memory) := Writing.run r.capacity message .start r.memory
  (outcome, { r with memory })

end Telemetry.Ring
