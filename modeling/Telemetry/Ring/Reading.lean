import Telemetry.Ring.Basic

/-!
# Reading from a ring

A read is five steps, each of which touches the memory once: load the read cursor, load the write
cursor, copy out the length, copy out the message, store the read cursor. It ends early where
nothing is unread, where the length does not fit in what is unread, and where the reader's buffer
cannot hold the message; the read cursor then stays. `read` runs the steps one after another, and
`peek` asks only for the length.
-/

namespace Telemetry.Ring

/-- The bytes that are unread between two cursors, if they can hold a length at all. -/
def admitUnread (capacity : Nat) (read write : UInt64) : Except RingError Nat :=
  if write = read then .error .empty
  else
    let unread := unreadBetween capacity read write
    if unread < lengthSize then .error (.corrupted 0 unread) else .ok unread

/-- The length of the message at a cursor, if what is unread holds the message. -/
def admitLength (capacity : Nat) (m : Memory) (read : UInt64) (unread : Nat) :
    Except RingError Nat :=
  let length := Bytes.toNat (copyOut capacity m read lengthSize)
  if unread - lengthSize < length then .error (.corrupted length (unread - lengthSize))
  else .ok length

/-- How far the read of a message has come. -/
inductive Reading where
  | start
  | cursorLoaded (cursor : UInt64)
  | admitted (cursor : UInt64) (unread : Nat)
  /-- The length of the message is known, and the buffer holds it. -/
  | lengthCopied (cursor : UInt64) (length : Nat)
  | messageCopied (cursor : UInt64) (message : Bytes)
  | finished (outcome : Except RingError Bytes)
  deriving Inhabited

namespace Reading

def remaining : Reading → Nat
  | start => 5
  | cursorLoaded _ => 4
  | admitted .. => 3
  | lengthCopied .. => 2
  | messageCopied .. => 1
  | finished _ => 0

/-- One step of a read into a buffer; without a bound, the buffer grows to fit. -/
def step (capacity : Nat) (room : Option Nat) : Reading → Memory → Reading × Memory
  | start, m => (cursorLoaded (readCursor m), m)
  | cursorLoaded cursor, m =>
    match admitUnread capacity cursor (writeCursor m) with
    | .error e => (finished (.error e), m)
    | .ok unread => (admitted cursor unread, m)
  | admitted cursor unread, m =>
    match admitLength capacity m cursor unread with
    | .error e => (finished (.error e), m)
    | .ok length =>
      if room.any fun n => decide (n < length) then (finished (.error (.bufferTooSmall length)), m)
      else (lengthCopied cursor length, m)
  | lengthCopied cursor length, m =>
    (messageCopied cursor (copyOut capacity m (cursor + UInt64.ofNat lengthSize) length), m)
  | messageCopied cursor message, m =>
    (finished (.ok message), setReadCursor m (cursor + UInt64.ofNat (lengthSize + message.length)))
  | finished outcome, m => (finished outcome, m)

theorem remaining_step_lt (capacity : Nat) (room : Option Nat) (r : Reading) (m : Memory)
    (h : 0 < r.remaining) : (step capacity room r m).1.remaining < r.remaining := by
  cases r <;> simp only [step] <;> (repeat' split) <;> simp_all [remaining]

def run (capacity : Nat) (room : Option Nat) (r : Reading) (m : Memory) :
    Except RingError Bytes × Memory :=
  match _h : r with
  | finished outcome => (outcome, m)
  | start | cursorLoaded _ | admitted .. | lengthCopied .. | messageCopied .. =>
    let next := step capacity room r m
    run capacity room next.1 next.2
termination_by r.remaining
decreasing_by all_goals
  subst _h
  exact remaining_step_lt _ _ _ _ (by simp [remaining])

end Reading

/-- Takes the next message, if it fits in a buffer of `room` bytes. -/
def readInto (r : Ring) (room : Nat) : Except RingError Bytes × Ring :=
  let (outcome, memory) := Reading.run r.capacity (some room) .start r.memory
  (outcome, { r with memory })

def read (r : Ring) : Except RingError Bytes × Ring :=
  let (outcome, memory) := Reading.run r.capacity none .start r.memory
  (outcome, { r with memory })

/-- What a read comes to, all steps together. -/
theorem Reading.run_start (capacity : Nat) (room : Option Nat) (m : Memory) :
    Reading.run capacity room .start m =
      match admitUnread capacity (readCursor m) (writeCursor m) with
      | .error e => (.error e, m)
      | .ok unread =>
        match admitLength capacity m (readCursor m) unread with
        | .error e => (.error e, m)
        | .ok length =>
          if room.any fun n => decide (n < length) then (.error (.bufferTooSmall length), m)
          else
            let message := copyOut capacity m (readCursor m + UInt64.ofNat lengthSize) length
            (.ok message,
              setReadCursor m (readCursor m + UInt64.ofNat (lengthSize + message.length))) := by
  cases hu : admitUnread capacity (readCursor m) (writeCursor m) with
  | error e => simp [Reading.run, step, hu]
  | ok unread =>
    cases hl : admitLength capacity m (readCursor m) unread with
    | error e => simp [Reading.run, step, hu, hl]
    | ok length =>
      by_cases hr : (room.any fun n => decide (n < length)) = true
      · simp [Reading.run, step, hu, hl, hr]
      · simp [Reading.run, step, hu, hl, hr]

/-- The bytes that the cursors say are unread, be they more than the circle holds. -/
def backlog (r : Ring) : Nat := (writeCursor r.memory - readCursor r.memory).toNat

theorem admitUnread_eq_ok {capacity : Nat} {read write : UInt64} {unread : Nat}
    (h : admitUnread capacity read write = .ok unread) :
    lengthSize ≤ unread ∧ unread = unreadBetween capacity read write := by
  simp only [admitUnread] at h
  split at h
  · cases h
  · split at h
    · cases h
    · rename_i hu
      injection h with h
      rw [h] at hu
      exact ⟨Nat.not_lt.1 hu, h.symm⟩

theorem length_of_admitLength {capacity : Nat} {m : Memory} {read : UInt64} {unread length : Nat}
    (h : admitLength capacity m read unread = .ok length) : length ≤ unread - lengthSize := by
  simp only [admitLength] at h
  split at h
  · cases h
  · injection h with h
    omega

/-- A read fails and leaves everything as it is, or it takes a message that fits in what is unread
and in the buffer. -/
theorem Reading.run_start_cases (capacity : Nat) (room : Option Nat) (m : Memory) :
    (∃ e, run capacity room .start m = (.error e, m)) ∨
    ∃ message, run capacity room .start m = (.ok message,
        setReadCursor m (readCursor m + UInt64.ofNat (lengthSize + message.length))) ∧
      lengthSize + message.length ≤ unreadBetween capacity (readCursor m) (writeCursor m) ∧
      ∀ n ∈ room, message.length ≤ n := by
  rw [run_start]
  cases hu : admitUnread capacity (readCursor m) (writeCursor m) with
  | error e => exact .inl ⟨e, rfl⟩
  | ok unread =>
    obtain ⟨hfour, hunread⟩ := admitUnread_eq_ok hu
    cases hl : admitLength capacity m (readCursor m) unread with
    | error e => exact .inl ⟨e, by simp only [hl]⟩
    | ok length =>
      have hlength := length_of_admitLength hl
      by_cases hroom : (room.any fun n => decide (n < length)) = true
      · exact .inl ⟨.bufferTooSmall length, by simp only [hl, if_pos hroom]⟩
      · refine .inr ⟨copyOut capacity m (readCursor m + UInt64.ofNat lengthSize) length,
          by simp only [hl, if_neg hroom], ?_, ?_⟩
        · rw [length_copyOut, ← hunread]
          omega
        · rintro n rfl
          simpa using hroom

/-- A cursor that is moved towards another one comes as much closer to it. -/
theorem toNat_sub_add {read write : UInt64} {n : Nat} (h : n ≤ (write - read).toNat) :
    (write - (read + UInt64.ofNat n)).toNat + n = (write - read).toNat := by
  have hlt := (write - read).toNat_lt
  have hn : (UInt64.ofNat n).toNat = n := by
    rw [UInt64.toNat_ofNat']
    omega
  have hsub : write - (read + UInt64.ofNat n) = write - read - UInt64.ofNat n := by grind
  rw [hsub, UInt64.toNat_sub_of_le _ _ (by rw [UInt64.le_iff_toNat_le, hn]; exact h), hn]
  omega

theorem backlog_setReadCursor {r : Ring} {n : Nat} (h : n ≤ r.backlog) :
    backlog { r with memory := setReadCursor r.memory (readCursor r.memory + UInt64.ofNat n) } + n
      = r.backlog := by
  simp only [backlog, readCursor_setReadCursor, writeCursor_setReadCursor]
  exact toNat_sub_add h

/-- The length of the next message, which stays where it is. -/
def peek (r : Ring) : Except RingError Nat := do
  let cursor := readCursor r.memory
  let unread ← admitUnread r.capacity cursor (writeCursor r.memory)
  admitLength r.capacity r.memory cursor unread

end Telemetry.Ring
