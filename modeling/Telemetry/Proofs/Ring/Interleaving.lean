import Mathlib
import Telemetry.Proofs.Ring.Contents

/-!
# A writer beside a reader

One writer and one reader work on a ring at the same time: the steps of a write and the steps of a
read come in any order, one that both sides see, and each of them touches the memory once. In
between, each side goes by a cursor of the other side that it loaded some steps ago. Such a cursor
may be out of date, but it errs on the safe side: the reader has only made more room since, and the
writer has only added to what is unread. It follows that a writer leaves what is unread alone, that
no read finds a damaged length, and that what the reader has taken and what is unread are together
what was written (`reader_follows_writer`).

## How the proof goes

`Writing.Sound` and `Reading.Sound` say what is true at each step of a write and of a read, whatever
the other side has done since. A step that moves no cursor keeps both and leaves the queue as it is
(`Writing.step_keeps`, `Reading.step_keeps`). The step that stores the write cursor adds a message
to the queue, which a read that is under way does not mind (`Reading.Sound.append`); the one that
stores the read cursor takes one off, which a write does not mind (`Writing.Sound.drop`). So there
are four lemmas for the turns of the two sides (`sound_write_quiet`, `sound_write_last`,
`sound_read_quiet`, `sound_read_last`), and by induction on the actions one for a run (`sound_run`).

Beside the ring runs an account of what was written and what came of the reads. The bytes copied in
so far, those of a write under way included, never get fewer (`bytesWritten_le_step`), so that they
can be counted in 64 bits at the end of a run is enough for every step of it.
-/

namespace Telemetry.Ring

variable {r : Ring} {read : Nat} {q : Queue} {m : Bytes}

/-! ## The steps of a write -/

/-- Whether a message goes into a circle of which so much is used. -/
def Fitting (capacity used : Nat) (m : Bytes) : Prop :=
  m.length ≤ capacity / 2 ∧ used + footprint m ≤ capacity

namespace Writing

/-- Whether a write has ended with the message in the ring. -/
def succeeded : Writing → Bool
  | finished (.ok ()) => true
  | _ => false

/-- The bytes of a write under way that are in the circle already. -/
def copied (m : Bytes) : Writing → Nat
  | lengthCopied _ => lengthSize
  | messageCopied _ => footprint m
  | _ => 0

theorem copied_of_ended {w : Writing} (hended : w.remaining = 0) : w.copied m = 0 := by
  cases w with
  | finished outcome => rfl
  | _ => cases hended

/-- What a write has copied in stays there, or is the message by the end. -/
theorem copied_le_step (capacity : Nat) (m : Bytes) (w : Writing) (memory : Memory) :
    w.copied m ≤ (step capacity m w memory).1.copied m
      + Queue.used (if (step capacity m w memory).1.succeeded then [m] else []) := by
  cases w with
  | start => exact Nat.zero_le _
  | cursorLoaded cursor => exact Nat.zero_le _
  | admitted cursor => exact Nat.zero_le _
  | lengthCopied cursor => exact Nat.le_add_left lengthSize m.length
  | messageCopied cursor => exact Nat.le_add_left (footprint m) 0
  | finished outcome => exact Nat.zero_le _

/-- Whether the next step of a write leaves a place of the circle alone: whatever is in memory, the
byte at that place stays what it is. -/
def Spares (capacity : Nat) (m : Bytes) (w : Writing) (place : Nat) : Prop :=
  ∀ memory : Memory, (step capacity m w memory).2.get (controlSize + place)
    = memory.get (controlSize + place)

/-- What a write may go by, if the unread bytes end at `position` and are `used` in number. -/
def Sound (r : Ring) (m : Bytes) (position used : Nat) : Writing → Prop
  | start | finished _ => True
  | cursorLoaded cursor => cursor = UInt64.ofNat position ∧ m.length ≤ r.capacity / 2
  | admitted cursor => cursor = UInt64.ofNat position ∧ Fitting r.capacity used m
  | lengthCopied cursor =>
    cursor = UInt64.ofNat position ∧ Fitting r.capacity used m ∧
      stretch r.capacity r.memory position lengthSize = Bytes.ofNat lengthSize m.length
  | messageCopied cursor =>
    cursor = UInt64.ofNat position ∧ Fitting r.capacity used m ∧
      stretch r.capacity r.memory position (footprint m) = encodeMessage m

/-- A read cursor that moves on makes room, and nothing that was copied in is touched. -/
theorem Sound.drop {w : Writing} {position used used' : Nat} (h : w.Sound r m position used)
    (hle : used' ≤ used) (head : Bytes) : w.Sound (r.drop head) m position used' := by
  have hfits (hf : Fitting r.capacity used m) : Fitting r.capacity used' m :=
    ⟨hf.1, Nat.le_trans (Nat.add_le_add_right hle _) hf.2⟩
  have hstretch (width : Nat) : stretch r.capacity (r.drop head).memory position width
      = stretch r.capacity r.memory position width := by
    rw [Ring.drop, setReadCursor, stretch_storeNat _ _ _ _ _ (by decide)]
  cases w with
  | start => trivial
  | finished outcome => trivial
  | cursorLoaded cursor =>
      rw [Sound, capacity_drop]
      exact h
  | admitted cursor =>
      rw [Sound, capacity_drop]
      exact ⟨h.1, hfits h.2⟩
  | lengthCopied cursor =>
      rw [Sound, capacity_drop, hstretch]
      exact ⟨h.1, hfits h.2.1, h.2.2⟩
  | messageCopied cursor =>
      rw [Sound, capacity_drop, hstretch]
      exact ⟨h.1, hfits h.2.1, h.2.2⟩

/-- As long as the write cursor stays, a step of a write changes nothing for the reader. -/
theorem step_keeps {w : Writing} (h : r.Carries read q) (hw : w.Sound r m (read + q.used) q.used)
    (hexact : Exact r.capacity (read + q.used + w.copied m))
    (hquiet : ∀ cursor, w ≠ messageCopied cursor) :
    let next := step r.capacity m w r.memory
    Carries ⟨r.capacity, next.2⟩ read q ∧
      next.1.Sound ⟨r.capacity, next.2⟩ m (read + q.used) q.used ∧
      (w.remaining ≠ 0 → next.1.succeeded = false) := by
  have hsize : footprint m = m.length + lengthSize := rfl
  have hfour : (Bytes.ofNat lengthSize m.length).length = lengthSize := Bytes.length_ofNat _ _
  have hused := h.used_le
  cases w with
  | start =>
      simp only [step]
      by_cases hlong : r.capacity / 2 < m.length
      · rw [if_pos hlong]
        exact ⟨h, trivial, fun _ => rfl⟩
      · rw [if_neg hlong]
        exact ⟨h, ⟨h.writeCursor, Nat.le_of_not_lt hlong⟩, fun _ => rfl⟩
  | cursorLoaded cursor =>
      obtain ⟨rfl, hlong⟩ := hw
      have hunread := h.unreadBetween_eq
      rw [h.writeCursor] at hunread
      simp only [step, hunread]
      by_cases hfull : r.capacity - q.used < footprint m
      · rw [if_pos hfull]
        exact ⟨h, trivial, fun _ => rfl⟩
      · rw [if_neg hfull]
        have hfits : q.used + footprint m ≤ r.capacity := by omega
        exact ⟨h, ⟨rfl, hlong, hfits⟩, fun _ => rfl⟩
  | admitted cursor =>
      obtain ⟨rfl, hlong, hfits⟩ := hw
      have hplace : (UInt64.ofNat (read + q.used)).toNat % r.capacity
          = (read + q.used) % r.capacity := h.exact.mod_eq
      -- the length goes behind all that is unread, and not as far as a whole turn
      have hroom : (Bytes.ofNat lengthSize m.length).length ≤ r.capacity := by omega
      have hturn : read + q.used + (Bytes.ofNat lengthSize m.length).length
          ≤ read + r.capacity := by omega
      have hlength := stretch_copyIn r.memory hplace hroom
      rw [hfour] at hlength
      exact ⟨h.copyIn_carries hplace (Nat.le_refl _) hturn, ⟨rfl, ⟨hlong, hfits⟩, hlength⟩,
        fun _ => rfl⟩
  | lengthCopied cursor =>
      obtain ⟨rfl, ⟨hlong, hfits⟩, hlength⟩ := hw
      have hplace := hexact.add_mod_eq
      have hroom : footprint m ≤ r.capacity := by omega
      have hturn : read + q.used + lengthSize + m.length ≤ read + r.capacity := by omega
      exact ⟨h.copyIn_carries hplace (Nat.le_add_right _ _) hturn,
        ⟨rfl, ⟨hlong, hfits⟩, stretch_message hplace hroom hlength⟩, fun _ => rfl⟩
  | messageCopied cursor => exact absurd rfl (hquiet cursor)
  | finished outcome => exact ⟨h, trivial, fun hne => absurd rfl hne⟩

/-- The write cursor moves over a message that lies behind those that are there. -/
theorem Sound.publish {cursor : UInt64}
    (hw : (messageCopied cursor).Sound r m (read + q.used) q.used) (h : r.Carries read q)
    (hexact : Exact r.capacity (read + q.used + footprint m)) :
    Carries ⟨r.capacity, setWriteCursor r.memory (cursor + UInt64.ofNat (footprint m))⟩ read
      (q ++ [m]) := by
  obtain ⟨rfl, ⟨hlong, hfits⟩, hmessage⟩ := hw
  rw [← UInt64.ofNat_add]
  exact h.publish_carries hlong hfits hexact hmessage

/-- No step of a write touches what is unread. -/
theorem Sound.spares {w : Writing} (hw : w.Sound r m (read + q.used) q.used)
    (h : r.Carries read q) (hexact : Exact r.capacity (read + q.used + w.copied m)) {k : Nat}
    (hk : k < q.used) : w.Spares r.capacity m ((read + k) % r.capacity) := by
  intro memory
  have hsize : footprint m = m.length + lengthSize := rfl
  have hfour : (Bytes.ofNat lengthSize m.length).length = lengthSize := Bytes.length_ofNat _ _
  cases w with
  | start =>
      simp only [step]
      split <;> rfl
  | cursorLoaded cursor =>
      simp only [step]
      split <;> rfl
  | admitted cursor =>
      obtain ⟨rfl, hlong, hfits⟩ := hw
      exact get_copyIn_before h.capacity_pos memory h.exact.mod_eq (by omega) (by omega)
  | lengthCopied cursor =>
      obtain ⟨rfl, ⟨hlong, hfits⟩, hlength⟩ := hw
      rw [copied] at hexact
      exact get_copyIn_before h.capacity_pos memory hexact.add_mod_eq (by omega) (by omega)
  | messageCopied cursor =>
      have hcontrol : writeCursorAt + 8 ≤ controlSize := by decide
      exact get_storeNat_of_le memory (Nat.le_trans hcontrol (Nat.le_add_right _ _))
  | finished outcome => rfl

end Writing

/-! ## The steps of a read -/

namespace Reading

/-- What a read has come to, if it has ended. -/
def outcome? : Reading → Option (Except RingError Bytes)
  | finished outcome => some outcome
  | _ => none

/-- What a read may go by, if `read` bytes were read before it and `q` is unread. -/
def Sound (read : Nat) (q : Queue) : Reading → Prop
  | start | finished _ => True
  | cursorLoaded cursor => cursor = UInt64.ofNat read
  | admitted cursor unread =>
    cursor = UInt64.ofNat read ∧ ∃ m q', q = m :: q' ∧ footprint m ≤ unread
  | lengthCopied cursor length =>
    cursor = UInt64.ofNat read ∧ ∃ m q', q = m :: q' ∧ length = m.length
  | messageCopied cursor message => cursor = UInt64.ofNat read ∧ ∃ q', q = message :: q'

/-- A message more at the end is nothing to a read that is under way. -/
theorem Sound.append {reading : Reading} (h : reading.Sound read q) (m : Bytes) :
    reading.Sound read (q ++ [m]) := by
  cases reading with
  | start => trivial
  | finished outcome => trivial
  | cursorLoaded cursor => exact h
  | admitted cursor unread =>
      obtain ⟨hcursor, head, q', rfl, hle⟩ := h
      exact ⟨hcursor, head, q' ++ [m], rfl, hle⟩
  | lengthCopied cursor length =>
      obtain ⟨hcursor, head, q', rfl, hlength⟩ := h
      exact ⟨hcursor, head, q' ++ [m], rfl, hlength⟩
  | messageCopied cursor message =>
      obtain ⟨hcursor, q', rfl⟩ := h
      exact ⟨hcursor, q' ++ [m], rfl⟩

/-- As long as the read cursor stays, a step of a read leaves the memory as it is. If it ends the
read, then because nothing was unread or the buffer cannot hold the message. -/
theorem step_keeps {reading : Reading} (room : Option Nat) (h : r.Carries read q)
    (hr : reading.Sound read q) (hunended : reading.remaining ≠ 0)
    (hquiet : ∀ cursor message, reading ≠ messageCopied cursor message) :
    let next := step r.capacity room reading r.memory
    next.2 = r.memory ∧ next.1.Sound read q ∧
      ∀ outcome ∈ next.1.outcome?,
        outcome = .error .empty ∨ ∃ n, outcome = .error (.bufferTooSmall n) := by
  intro next
  cases reading with
  | start => exact ⟨rfl, h.readCursor, by simp [next, step, outcome?]⟩
  | cursorLoaded cursor =>
      obtain rfl : cursor = UInt64.ofNat read := hr
      cases q with
      | nil =>
          have hempty := h.admitUnread_nil
          rw [h.readCursor] at hempty
          have hnext : next = (finished (.error .empty), r.memory) := by
            simp only [next, step, hempty]
          rw [hnext]
          exact ⟨rfl, trivial, by simp [outcome?]⟩
      | cons m q =>
          -- what is unread now may be less than what will be by the next step, and is enough
          have hsome := h.admitUnread_cons
          rw [h.readCursor] at hsome
          have hnext : next = (admitted (UInt64.ofNat read) (Queue.used (m :: q)), r.memory) := by
            simp only [next, step, hsome]
          rw [hnext]
          exact ⟨rfl, ⟨rfl, m, q, rfl, Nat.le_add_right _ _⟩, by simp [outcome?]⟩
  | admitted cursor unread =>
      obtain ⟨rfl, m, q, rfl, hle⟩ := hr
      -- the writer may have added messages since, and the first one is the same
      have hlength := h.admitLength_of_le hle
      rw [h.readCursor] at hlength
      by_cases hroom : (room.any fun n => decide (n < m.length)) = true
      · have hnext : next = (finished (.error (.bufferTooSmall m.length)), r.memory) := by
          simp only [next, step, hlength, if_pos hroom]
        rw [hnext]
        exact ⟨rfl, trivial, by simp [outcome?]⟩
      · have hnext : next = (lengthCopied (UInt64.ofNat read) m.length, r.memory) := by
          simp only [next, step, hlength, if_neg hroom]
        rw [hnext]
        exact ⟨rfl, ⟨rfl, m, q, rfl, rfl⟩, by simp [outcome?]⟩
  | lengthCopied cursor length =>
      obtain ⟨rfl, m, q, rfl, rfl⟩ := hr
      have hmessage := h.copyOut_cons
      rw [h.readCursor] at hmessage
      have hnext : next = (messageCopied (UInt64.ofNat read) m, r.memory) := by
        simp only [next, step, hmessage]
      rw [hnext]
      exact ⟨rfl, ⟨rfl, q, rfl⟩, by simp [outcome?]⟩
  | messageCopied cursor message => exact absurd rfl (hquiet cursor message)
  | finished outcome => exact absurd rfl hunended

end Reading

/-! ## Runs -/

/-- The messages among what reads have come to. -/
def delivered (outcomes : List (Except RingError Bytes)) : List Bytes :=
  outcomes.filterMap Except.toOption

theorem delivered_append_of_failed {outcomes more : List (Except RingError Bytes)}
    (h : ∀ outcome ∈ more, outcome = .error .empty ∨ ∃ n, outcome = .error (.bufferTooSmall n)) :
    delivered (outcomes ++ more) = delivered outcomes := by
  have hnone : more.filterMap Except.toOption = [] := by
    rw [List.filterMap_eq_nil_iff]
    intro outcome hin
    rcases h outcome hin with rfl | ⟨n, rfl⟩ <;> rfl
  rw [delivered, List.filterMap_append, hnone, List.append_nil, delivered]

/-- A writer and a reader at a ring, each somewhere in an operation of its own, with an account of
what was written and what the reads came to. -/
structure Exchange where
  ring : Ring
  /-- The message of the last write that began. -/
  message : Bytes
  writing : Writing
  /-- The buffer of the last read that began. -/
  room : Option Nat
  reading : Reading
  /-- The messages whose writes succeeded, oldest first. -/
  written : List Bytes
  /-- What the reads came to, oldest first. -/
  outcomes : List (Except RingError Bytes)

namespace Exchange

/-- What can happen next. -/
inductive Action where
  /-- A write begins, unless one is under way. -/
  | beginWrite (m : Bytes)
  /-- One step of the write under way. -/
  | write
  /-- A read into a buffer begins, unless one is under way; without a bound, the buffer grows to
  fit. -/
  | beginRead (room : Option Nat)
  /-- One step of the read under way. -/
  | read
  deriving DecidableEq, Repr

/-- One action. -/
def step (s : Exchange) : Action → Exchange
  | .beginWrite m =>
    if s.writing.remaining = 0 then { s with message := m, writing := .start } else s
  | .write =>
    if s.writing.remaining = 0 then s
    else
      let next := Writing.step s.ring.capacity s.message s.writing s.ring.memory
      { s with
        ring := { s.ring with memory := next.2 }
        writing := next.1
        written := if next.1.succeeded then s.written ++ [s.message] else s.written }
  | .beginRead room =>
    if s.reading.remaining = 0 then { s with room, reading := .start } else s
  | .read =>
    if s.reading.remaining = 0 then s
    else
      let next := Reading.step s.ring.capacity s.room s.reading s.ring.memory
      { s with
        ring := { s.ring with memory := next.2 }
        reading := next.1
        outcomes := s.outcomes ++ next.1.outcome?.toList }

/-- One action after another. -/
def run (s : Exchange) (actions : List Action) : Exchange := actions.foldl step s

/-- A ring at which nothing is under way. -/
def start (ring : Ring) : Exchange where
  ring := ring
  message := []
  writing := .finished (.ok ())
  room := none
  reading := .finished (.error .empty)
  written := []
  outcomes := []

/-- The bytes that were copied into the circle, lengths included, also those of a message whose
write is under way. -/
def bytesWritten (s : Exchange) : Nat := Queue.used s.written + s.writing.copied s.message

/-- The account is right, and each side is sound. -/
structure Sound (s : Exchange) (capacity count read : Nat) (q : Queue) : Prop where
  capacity_eq : s.ring.capacity = capacity
  carries : s.ring.Carries read q
  written_eq : s.written = delivered s.outcomes ++ q
  count_eq : read + q.used = count + Queue.used s.written
  intact : ∀ length available, .error (.corrupted length available) ∉ s.outcomes
  writer : s.writing.Sound s.ring s.message (read + q.used) q.used
  reader : s.reading.Sound read q

variable {s : Exchange} {capacity count : Nat}

theorem Sound.exact_copied (h : s.Sound capacity count read q)
    (hexact : Exact capacity (count + s.bytesWritten)) :
    Exact s.ring.capacity (read + q.used + s.writing.copied s.message) := by
  rw [h.capacity_eq, h.count_eq, Nat.add_assoc]
  exact hexact

/-! ### The writer's turn -/

theorem sound_beginWrite (h : s.Sound capacity count read q) (m : Bytes) :
    (s.step (.beginWrite m)).Sound capacity count read q := by
  rw [step]
  split
  · exact { h with writer := trivial }
  · exact h

/-- A step of a write that does not put the message in the ring. -/
theorem sound_write_quiet (h : s.Sound capacity count read q)
    (hexact : Exact capacity (count + s.bytesWritten))
    (hquiet : ∀ cursor, s.writing ≠ .messageCopied cursor) :
    (s.step .write).Sound capacity count read q := by
  rw [step]
  split
  next => exact h
  next hunended =>
    obtain ⟨hcarries, hwriter, hsucceeded⟩ := Writing.step_keeps h.carries h.writer
      (h.exact_copied hexact) hquiet
    have hwritten := hsucceeded hunended
    refine { h with carries := hcarries, writer := hwriter, written_eq := ?_, count_eq := ?_ }
    · simp only [hwritten, Bool.false_eq_true, if_false]
      exact h.written_eq
    · simp only [hwritten, Bool.false_eq_true, if_false]
      exact h.count_eq

theorem step_write_last {cursor : UInt64} (hlast : s.writing = .messageCopied cursor) :
    s.step .write = { s with
      ring := ⟨s.ring.capacity,
        setWriteCursor s.ring.memory (cursor + UInt64.ofNat (footprint s.message))⟩
      writing := .finished (.ok ())
      written := s.written ++ [s.message] } := by
  simp [step, hlast, Writing.remaining, Writing.step, Writing.succeeded]

/-- The step of a write that does. -/
theorem sound_write_last (h : s.Sound capacity count read q) {cursor : UInt64}
    (hlast : s.writing = .messageCopied cursor)
    (hexact : Exact capacity (count + s.bytesWritten)) :
    (s.step .write).Sound capacity count read (q ++ [s.message]) := by
  have hwriter := h.writer
  have hcopied := h.exact_copied hexact
  rw [hlast] at hwriter hcopied
  rw [Writing.copied] at hcopied
  have hcarries := hwriter.publish h.carries hcopied
  rw [step_write_last hlast]
  constructor
  · exact h.capacity_eq
  · exact hcarries
  · rw [h.written_eq, List.append_assoc]
  · rw [Queue.used_append, Queue.used_append, ← Nat.add_assoc, h.count_eq, Nat.add_assoc]
  · exact h.intact
  · trivial
  · exact h.reader.append s.message

/-! ### The reader's turn -/

theorem sound_beginRead (h : s.Sound capacity count read q) (room : Option Nat) :
    (s.step (.beginRead room)).Sound capacity count read q := by
  rw [step]
  split
  · exact { h with reader := trivial }
  · exact h

/-- A step of a read that does not take a message. -/
theorem sound_read_quiet (h : s.Sound capacity count read q)
    (hquiet : ∀ cursor message, s.reading ≠ .messageCopied cursor message) :
    (s.step .read).Sound capacity count read q := by
  rw [step]
  split
  next => exact h
  next hunended =>
    obtain ⟨hmemory, hreader, hfailed⟩ :=
      Reading.step_keeps s.room h.carries h.reader hunended hquiet
    dsimp only
    rw [hmemory]
    have hnothing : ∀ outcome ∈ (Reading.step s.ring.capacity s.room s.reading
        s.ring.memory).1.outcome?.toList, outcome = .error .empty ∨
          ∃ n, outcome = .error (.bufferTooSmall n) := by
      intro outcome hin
      exact hfailed outcome (Option.mem_toList.1 hin)
    exact { h with
      written_eq := by
        rw [h.written_eq, delivered_append_of_failed hnothing]
      intact := by
        intro length available hin
        rcases List.mem_append.1 hin with hin | hin
        · exact h.intact length available hin
        · rcases hnothing _ hin with hout | ⟨n, hout⟩ <;> cases hout
      reader := hreader }

theorem step_read_last {cursor : UInt64} {message : Bytes}
    (hlast : s.reading = .messageCopied cursor message) :
    s.step .read = { s with
      ring := ⟨s.ring.capacity,
        setReadCursor s.ring.memory (cursor + UInt64.ofNat (lengthSize + message.length))⟩
      reading := .finished (.ok message)
      outcomes := s.outcomes ++ [.ok message] } := by
  simp [step, hlast, Reading.remaining, Reading.step, Reading.outcome?]

/-- The step of a read that does. -/
theorem sound_read_last (h : s.Sound capacity count read q) {cursor : UInt64} {message : Bytes}
    (hlast : s.reading = .messageCopied cursor message) :
    ∃ q', (s.step .read).Sound capacity count (read + footprint message) q' := by
  have hreader := h.reader
  rw [hlast] at hreader
  obtain ⟨rfl, q', rfl⟩ := hreader
  have hsum : read + footprint message + Queue.used q' = read + Queue.used (message :: q') := by
    rw [Queue.used_cons, Nat.add_assoc]
  have hdrop : setReadCursor s.ring.memory (UInt64.ofNat read
      + UInt64.ofNat (lengthSize + message.length)) = (s.ring.drop message).memory := by
    rw [drop, h.carries.readCursor]
  have hcarries := h.carries.drop_carries
  -- a write under way has more room than it knows of
  have hwriter := h.writer.drop (Nat.le_add_left (Queue.used q') (footprint message)) message
  refine ⟨q', ?_⟩
  rw [step_read_last hlast, hdrop]
  constructor
  · exact h.capacity_eq
  · exact hcarries
  · rw [h.written_eq, delivered, delivered, List.filterMap_append, List.append_assoc]
    rfl
  · rw [hsum, h.count_eq]
  · intro length available hin
    rcases List.mem_append.1 hin with hin | hin
    · exact h.intact length available hin
    · cases List.mem_singleton.1 hin
  · rw [hsum]
    exact hwriter
  · trivial

/-! ### Whole runs -/

/-- What is in the circle stays counted. -/
theorem bytesWritten_le_step (s : Exchange) (action : Action) :
    s.bytesWritten ≤ (s.step action).bytesWritten := by
  cases action with
  | beginWrite m =>
      rw [step]
      split
      next hended =>
        rw [bytesWritten, Writing.copied_of_ended hended]
        exact Nat.le_refl _
      next => exact Nat.le_refl _
  | write =>
      rw [step]
      split
      next => exact Nat.le_refl _
      next =>
        have hcopied := Writing.copied_le_step s.ring.capacity s.message s.writing s.ring.memory
        simp only [bytesWritten]
        split at hcopied
        next hlast =>
          simp only [hlast, if_true, Queue.used_append]
          omega
        next hlast =>
          simp only [hlast, Queue.used_nil] at hcopied ⊢
          exact Nat.add_le_add_left hcopied _
  | beginRead room =>
      rw [step]
      split <;> exact Nat.le_refl _
  | read =>
      rw [step]
      split <;> exact Nat.le_refl _

/-- Whatever happens next, the account stays right and each side stays sound. -/
theorem sound_step (h : s.Sound capacity count read q) (action : Action)
    (hexact : Exact capacity (count + (s.step action).bytesWritten)) :
    ∃ read' q', (s.step action).Sound capacity count read' q' := by
  have hbefore : Exact capacity (count + s.bytesWritten) :=
    hexact.mono (Nat.add_le_add_left (bytesWritten_le_step s action) _)
  cases action with
  | beginWrite m => exact ⟨read, q, sound_beginWrite h m⟩
  | beginRead room => exact ⟨read, q, sound_beginRead h room⟩
  | write =>
      by_cases hlast : ∃ cursor, s.writing = .messageCopied cursor
      · obtain ⟨cursor, hlast⟩ := hlast
        exact ⟨read, _, sound_write_last h hlast hbefore⟩
      · exact ⟨read, q, sound_write_quiet h hbefore (not_exists.1 hlast)⟩
  | read =>
      by_cases hlast : ∃ cursor message, s.reading = .messageCopied cursor message
      · obtain ⟨cursor, message, hlast⟩ := hlast
        exact ⟨_, sound_read_last h hlast⟩
      · exact ⟨read, q, sound_read_quiet h fun cursor message hc => hlast ⟨cursor, message, hc⟩⟩

theorem bytesWritten_le_run (actions : List Action) :
    ∀ s : Exchange, s.bytesWritten ≤ (s.run actions).bytesWritten := by
  induction actions with
  | nil => intro s; exact Nat.le_refl _
  | cons action actions ih =>
      intro s
      exact Nat.le_trans (bytesWritten_le_step s action) (ih (s.step action))

theorem sound_run (actions : List Action) {s : Exchange} {read : Nat} {q : Queue}
    (h : s.Sound capacity count read q)
    (hexact : Exact capacity (count + (s.run actions).bytesWritten)) :
    ∃ read' q', (s.run actions).Sound capacity count read' q' := by
  induction actions generalizing s read q with
  | nil => exact ⟨read, q, h⟩
  | cons action actions ih =>
      have hfirst : Exact capacity (count + (s.step action).bytesWritten) :=
        hexact.mono (Nat.add_le_add_left (bytesWritten_le_run actions (s.step action)) _)
      obtain ⟨_, _, hstep⟩ := sound_step h action hfirst
      exact ih hstep hexact

/-- **The reader follows the writer.** However the steps of one writer and of one reader come after
one another at a ring that was empty, as long as the bytes written count, those of the message under
way included: the next step of the writer leaves what is unread alone, no read finds a damaged
length, and the messages that reads delivered are the first of those that were written, with the
others unread. -/
theorem reader_follows_writer {ring : Ring}
    (hcapacity : minCapacity ≤ ring.capacity ∧ ring.capacity ≤ maxCapacity)
    (hempty : ring.isEmpty = true) (actions : List Action) {s : Exchange}
    (hrun : (start ring).run actions = s)
    (hexact : Exact ring.capacity ((writeCursor ring.memory).toNat + s.bytesWritten)) :
    (∀ k < s.ring.backlog, s.writing.Spares s.ring.capacity s.message
        (((readCursor s.ring.memory).toNat + k) % s.ring.capacity)) ∧
      (∀ length available, .error (.corrupted length available) ∉ s.outcomes) ∧
      ∃ rest, s.written = delivered s.outcomes ++ rest ∧ s.ring.backlog = Queue.used rest := by
  have hcarries := carries_of_isEmpty hcapacity hempty
  have hstart : (start ring).Sound ring.capacity (writeCursor ring.memory).toNat
      (writeCursor ring.memory).toNat [] := ⟨rfl, hcarries, rfl, rfl, by simp [start], trivial,
        trivial⟩
  obtain ⟨read, q, h⟩ := sound_run actions hstart (hrun ▸ hexact)
  rw [hrun] at h
  -- the count of bytes read and the cursor that stands for it name the same place
  have hplace : (readCursor s.ring.memory).toNat % s.ring.capacity = read % s.ring.capacity := by
    rw [h.carries.readCursor]
    exact (h.carries.exact.mono (Nat.le_add_right _ _)).mod_eq
  refine ⟨?_, h.intact, q, h.written_eq, h.carries.backlog_eq⟩
  intro k hk
  rw [h.carries.backlog_eq] at hk
  rw [← Nat.mod_add_mod, hplace, Nat.mod_add_mod]
  exact h.writer.spares h.carries (h.exact_copied hexact) hk

/-- A run at a circle of twenty bytes. A write that goes by an old read cursor is refused, and the
next one goes across the end of the circle while the message between the cursors is read. -/
def overtaking : Exchange :=
  (start ⟨20, Memory.zeroed (controlSize + 20)⟩).run
    [.beginWrite [1, 2, 3, 4, 5, 6], .write, .write, .write, .write, .write,
      .beginWrite [7, 8], .write, .write, .write, .write, .write,
      .beginRead none, .beginWrite [9], .read, .read, .write, .write, .read, .read, .read,
      .beginWrite [9, 10, 11], .write, .beginRead (some 2), .read, .write, .read, .write, .read]

theorem overtaking_spares_the_unread :
    overtaking.written = [[1, 2, 3, 4, 5, 6], [7, 8]] ∧
      delivered overtaking.outcomes = [[1, 2, 3, 4, 5, 6]] ∧
      overtaking.ring.backlog = Queue.used [[7, 8]] ∧
      ∀ k < 6, overtaking.writing.Spares 20 [9, 10, 11] ((10 + k) % 20) := by
  have hcapacity : overtaking.ring.capacity = 20 := by cbv
  have hmessage : overtaking.message = [9, 10, 11] := by cbv
  have hbacklog : overtaking.ring.backlog = 6 := by cbv
  have hcursor : (readCursor overtaking.ring.memory).toNat = 10 := by cbv
  obtain ⟨hspares, _⟩ := reader_follows_writer (by decide) (by cbv) _ (Eq.refl overtaking)
    (.inl (by cbv))
  rw [hcapacity, hmessage, hbacklog, hcursor] at hspares
  exact ⟨by cbv, by cbv, hbacklog, hspares⟩

end Exchange

end Telemetry.Ring
