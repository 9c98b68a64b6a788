import Telemetry.Proofs.Ring.Circle

/-!
# What a ring carries

A ring carries a queue of messages: the stretch of the tape from the read cursor to the write cursor
is the messages one after another, each behind its length (`Carries`). A write appends to the queue
or refuses for the reasons the queue gives (`write_eq`, `append_carries`), a read takes the head off
(`read_cons`, `drop_carries`), and what is unread is what the queue takes up (`availableRead_eq`). A
new ring carries nothing (`create_eq_ok`).

The count of bytes ever read is kept beside the ring as a number of its own. The cursors, which are
meant to grow without bound, are that count and the count of bytes ever written, modulo 2^64: they
name the right places as long as the counts fit, or for ever if the capacity divides 2^64 (`Exact`).

## How the proof goes

All steps of an operation together come to one equation (`Writing.run_start`, and
`Reading.run_start` for reads), whose conditions are about cursors and stored lengths. `Carries`
turns each of them into a condition on the queue: the distance of the cursors is `used`
(`Carries.unreadBetween_eq`), and the length at the read cursor is that of the first message
(`Carries.admitLength_cons`).

That `Carries` is kept is a matter of which bytes change. Numbers behind the cursors and copies to
what is free leave the queue alone (`Carries.storeNat_carries`, `Carries.copyIn_carries`); the queue
grows when the write cursor moves over a message that lies there already
(`Carries.publish_carries`). These lemmas are about single stores, so that a reader may come in
between: `Telemetry.Proofs.Ring.Interleaving` uses them step by step.
-/

namespace Telemetry.Ring

/-! ## The control block -/

theorem get_storeNat_of_le (m : Memory) {start width n j : Nat} (h : start + width ≤ j) :
    (m.storeNat start width n).get j = m.get j := by
  rw [Memory.storeNat, Memory.get_store, Bytes.length_ofNat, if_neg (by omega)]

/-- A number that is stored in the control block leaves the tape as it is. -/
theorem stretch_storeNat (capacity : Nat) (m : Memory) {start width : Nat} (n p length : Nat)
    (h : start + width ≤ controlSize) :
    stretch capacity (m.storeNat start width n) p length = stretch capacity m p length := by
  apply stretch_congr
  intro k _
  exact get_storeNat_of_le m (by omega)

/-- Two memories with the same control block have the same cursors. -/
theorem cursors_congr {m m' : Memory} (h : ∀ j < controlSize, m.get j = m'.get j) :
    writeCursor m = writeCursor m' ∧ readCursor m = readCursor m' := by
  have hload {start width : Nat} (hin : start + width ≤ controlSize) :
      m.load start width = m'.load start width :=
    Memory.load_congr fun j _ hlt => h j (Nat.lt_of_lt_of_le hlt hin)
  constructor
  · rw [writeCursor, writeCursor, Memory.loadNat, Memory.loadNat, hload (by decide)]
  · rw [readCursor, readCursor, Memory.loadNat, Memory.loadNat, hload (by decide)]

@[simp] theorem writeCursor_setWriteCursor (m : Memory) (cursor : UInt64) :
    writeCursor (setWriteCursor m cursor) = cursor := by
  have hlt : cursor.toNat < Nat.pow 256 8 := cursor.toNat_lt
  rw [writeCursor, setWriteCursor, Memory.loadNat_storeNat, Nat.mod_eq_of_lt hlt,
    UInt64.ofNat_toNat]

@[simp] theorem readCursor_setWriteCursor (m : Memory) (cursor : UInt64) :
    readCursor (setWriteCursor m cursor) = readCursor m := by
  rw [readCursor, setWriteCursor,
    Memory.loadNat_storeNat_of_disjoint _ _ _ _ _ _ (by decide), readCursor]

/-! ## Whole writes -/

/-- What a write comes to, all steps together. -/
theorem Writing.run_start (capacity : Nat) (message : Bytes) (m : Memory) :
    Writing.run capacity message .start m =
      if capacity / 2 < message.length then
        (.error (.messageTooLarge message.length (capacity / 2)), m)
      else
        let available := capacity - unreadBetween capacity (readCursor m) (writeCursor m)
        if available < footprint message then (.error (.full (footprint message) available), m)
        else
          (.ok (), setWriteCursor
            (copyIn capacity
              (copyIn capacity m (writeCursor m) (Bytes.ofNat lengthSize message.length))
              (writeCursor m + UInt64.ofNat lengthSize) message)
            (writeCursor m + UInt64.ofNat (footprint message))) := by
  by_cases hlong : capacity / 2 < message.length
  · simp [Writing.run, step, hlong]
  · by_cases hfull : capacity - unreadBetween capacity (readCursor m) (writeCursor m)
        < footprint message
    · simp [Writing.run, step, hlong, hfull]
    · simp [Writing.run, step, hlong, hfull]

/-! ## Cursors that count -/

/-- Cursors that count up to `n` name the right places of a circle. -/
def Exact (capacity n : Nat) : Prop := n < UInt64.size ∨ capacity ∣ UInt64.size

theorem Exact.mono {capacity n n' : Nat} (h : Exact capacity n) (hle : n' ≤ n) :
    Exact capacity n' :=
  h.imp (Nat.lt_of_le_of_lt hle) id

/-- The place of a cursor is the place of the count it stands for. -/
theorem Exact.mod_eq {capacity n : Nat} (h : Exact capacity n) :
    (UInt64.ofNat n).toNat % capacity = n % capacity := by
  rw [UInt64.toNat_ofNat']
  rcases h with hlt | hdvd
  · have hn : n % UInt64.size = n := Nat.mod_eq_of_lt hlt
    exact congrArg (· % capacity) hn
  · exact Nat.mod_mod_of_dvd n hdvd

/-- A cursor that was moved on stands for the count that was moved on. -/
theorem Exact.add_mod_eq {capacity n k : Nat} (h : Exact capacity (n + k)) :
    (UInt64.ofNat n + UInt64.ofNat k).toNat % capacity = (n + k) % capacity := by
  rw [← UInt64.ofNat_add]
  exact h.mod_eq

/-- The distance of two cursors is the difference of the counts. -/
theorem sub_ofNat (read : Nat) {used : Nat} (hused : used ≤ maxCapacity) :
    (UInt64.ofNat (read + used) - UInt64.ofNat read).toNat = used := by
  have hsub : UInt64.ofNat (read + used) - UInt64.ofNat read = UInt64.ofNat used := by
    rw [UInt64.ofNat_add]
    grind
  have hlt : used < 2 ^ 64 := Nat.lt_of_le_of_lt hused (by decide)
  rw [hsub, UInt64.toNat_ofNat', Nat.mod_eq_of_lt hlt]

theorem unreadBetween_ofNat {capacity used : Nat} (read : Nat) (hused : used ≤ capacity)
    (hcapacity : capacity ≤ maxCapacity) :
    unreadBetween capacity (UInt64.ofNat read) (UInt64.ofNat (read + used)) = used := by
  rw [unreadBetween, sub_ofNat read (Nat.le_trans hused hcapacity), Nat.min_eq_left hused]

/-! ## Queues -/

/-- The messages in a ring, oldest first. -/
abbrev Queue := List Bytes

namespace Queue

/-- The bytes that a queue takes up, lengths included. -/
def used : Queue → Nat
  | [] => 0
  | m :: q => footprint m + used q

@[simp] theorem used_nil : used [] = 0 := rfl

@[simp] theorem used_cons (m : Bytes) (q : Queue) : used (m :: q) = footprint m + used q := rfl

@[simp] theorem used_append (q q' : Queue) : used (q ++ q') = used q + used q' := by
  induction q with
  | nil => simp
  | cons m q ih => simp [ih, Nat.add_assoc]

end Queue

/-- A message behind its length. -/
def encodeMessage (m : Bytes) : Bytes := Bytes.ofNat lengthSize m.length ++ m

/-- A ring carries a queue, `read` bytes having been read from it before. -/
structure Carries (r : Ring) (read : Nat) (q : Queue) : Prop where
  min_le : minCapacity ≤ r.capacity
  le_max : r.capacity ≤ maxCapacity
  readCursor : readCursor r.memory = UInt64.ofNat read
  writeCursor : writeCursor r.memory = UInt64.ofNat (read + q.used)
  used_le : q.used ≤ r.capacity
  exact : Exact r.capacity (read + q.used)
  unread : stretch r.capacity r.memory read q.used = q.flatMap encodeMessage
  length_le : ∀ m ∈ q, m.length ≤ r.capacity / 2

/-- The memory after a message was copied in behind its length, before the write cursor moves. -/
def copyMessage (capacity : Nat) (memory : Memory) (cursor : UInt64) (m : Bytes) : Memory :=
  copyIn capacity (copyIn capacity memory cursor (Bytes.ofNat lengthSize m.length))
    (cursor + UInt64.ofNat lengthSize) m

/-- The ring after a message was written to it. -/
def append (r : Ring) (m : Bytes) : Ring :=
  { r with
    memory := setWriteCursor (copyMessage r.capacity r.memory (Ring.writeCursor r.memory) m)
      (Ring.writeCursor r.memory + UInt64.ofNat (footprint m)) }

/-- The ring after a message was read from it. -/
def drop (r : Ring) (m : Bytes) : Ring :=
  { r with
    memory := setReadCursor r.memory
      (Ring.readCursor r.memory + UInt64.ofNat (lengthSize + m.length)) }

@[simp] theorem capacity_append (r : Ring) (m : Bytes) : (r.append m).capacity = r.capacity := by
  rw [append]

@[simp] theorem capacity_drop (r : Ring) (m : Bytes) : (r.drop m).capacity = r.capacity := by
  rw [drop]

theorem capacity_read (r : Ring) : r.read.2.capacity = r.capacity := by rw [Ring.read]

/-! ## Messages on the tape -/

theorem cursors_copyIn {capacity : Nat} (hpos : 0 < capacity) (m : Memory) (cursor : UInt64)
    {bs : Bytes} (hfits : bs.length ≤ capacity) :
    writeCursor (copyIn capacity m cursor bs) = writeCursor m ∧
      readCursor (copyIn capacity m cursor bs) = readCursor m := by
  apply cursors_congr
  intro j hj
  exact get_copyIn_of_lt hpos m cursor hfits hj

/-- A message that is copied in behind its length lies there, and its length is not touched. -/
theorem stretch_message {capacity position : Nat} {m : Bytes} {memory : Memory} {cursor : UInt64}
    (hcursor : cursor.toNat % capacity = (position + lengthSize) % capacity)
    (hfits : footprint m ≤ capacity)
    (hlength : stretch capacity memory position lengthSize = Bytes.ofNat lengthSize m.length) :
    stretch capacity (copyIn capacity memory cursor m) position (footprint m)
      = encodeMessage m := by
  have hsize : footprint m = lengthSize + m.length := Nat.add_comm _ _
  have hfour : 0 < lengthSize := by decide
  rw [hsize, stretch_add, stretch_copyIn_before (by omega) memory hcursor (by omega) (by omega),
    hlength, stretch_copyIn memory hcursor (by omega)]
  rfl

namespace Carries

variable {r : Ring} {read : Nat} {q : Queue}

theorem unreadBetween_eq (h : r.Carries read q) :
    unreadBetween r.capacity (Ring.readCursor r.memory) (Ring.writeCursor r.memory) = q.used := by
  rw [h.readCursor, h.writeCursor, unreadBetween_ofNat read h.used_le h.le_max]

/-- What is unread is what the queue takes up. -/
theorem availableRead_eq (h : r.Carries read q) : r.availableRead = q.used := h.unreadBetween_eq

theorem availableWrite_eq (h : r.Carries read q) : r.availableWrite = r.capacity - q.used := by
  rw [availableWrite, h.availableRead_eq]

theorem backlog_eq (h : r.Carries read q) : r.backlog = q.used := by
  rw [backlog, h.readCursor, h.writeCursor, sub_ofNat read (Nat.le_trans h.used_le h.le_max)]

theorem capacity_pos (h : r.Carries read q) : 0 < r.capacity :=
  Nat.lt_of_lt_of_le (by decide) h.min_le

/-! ## Changes of the memory -/

/-- A change that leaves the cursors and what lies between them alone leaves the queue alone. -/
theorem of_memory (h : r.Carries read q) {memory : Memory}
    (hwrite : Ring.writeCursor memory = Ring.writeCursor r.memory)
    (hread : Ring.readCursor memory = Ring.readCursor r.memory)
    (hunread : stretch r.capacity memory read q.used = stretch r.capacity r.memory read q.used) :
    Carries ⟨r.capacity, memory⟩ read q where
  min_le := h.min_le
  le_max := h.le_max
  readCursor := hread.trans h.readCursor
  writeCursor := hwrite.trans h.writeCursor
  used_le := h.used_le
  exact := h.exact
  unread := hunread.trans h.unread
  length_le := h.length_le

/-- A number that is stored behind the cursors leaves the queue as it is. -/
theorem storeNat_carries (h : r.Carries read q) {start width : Nat} (n : Nat)
    (hfrom : readCursorAt + 8 ≤ start) (hto : start + width ≤ controlSize) :
    Carries ⟨r.capacity, r.memory.storeNat start width n⟩ read q := by
  have hwrite : writeCursorAt + 8 ≤ start := Nat.le_trans (by decide) hfrom
  refine h.of_memory ?_ ?_ (stretch_storeNat _ _ _ _ _ hto)
  · rw [Ring.writeCursor, Ring.writeCursor,
      Memory.loadNat_storeNat_of_disjoint _ _ _ _ _ _ (.inl hwrite)]
  · rw [Ring.readCursor, Ring.readCursor,
      Memory.loadNat_storeNat_of_disjoint _ _ _ _ _ _ (.inl hfrom)]

/-- A copy to what is free leaves the queue as it is. -/
theorem copyIn_carries (h : r.Carries read q) {cursor : UInt64} {position : Nat} {bs : Bytes}
    (hcursor : cursor.toNat % r.capacity = position % r.capacity)
    (hbefore : read + q.used ≤ position) (hturn : position + bs.length ≤ read + r.capacity) :
    Carries ⟨r.capacity, copyIn r.capacity r.memory cursor bs⟩ read q := by
  obtain ⟨hwrite, hread⟩ := cursors_copyIn h.capacity_pos r.memory cursor
    (show bs.length ≤ r.capacity by omega)
  exact h.of_memory hwrite hread
    (stretch_copyIn_before h.capacity_pos r.memory hcursor hbefore hturn)

/-- A message that lies behind those that are there joins them when the write cursor moves. -/
theorem publish_carries (h : r.Carries read q) {m : Bytes} (hlong : m.length ≤ r.capacity / 2)
    (hfits : q.used + footprint m ≤ r.capacity)
    (hexact : Exact r.capacity (read + q.used + footprint m))
    (hmessage : stretch r.capacity r.memory (read + q.used) (footprint m) = encodeMessage m) :
    Carries ⟨r.capacity, setWriteCursor r.memory (UInt64.ofNat (read + q.used + footprint m))⟩ read
      (q ++ [m]) := by
  have hused : Queue.used (q ++ [m]) = q.used + footprint m := by simp
  constructor
  · exact h.min_le
  · exact h.le_max
  · rw [readCursor_setWriteCursor, h.readCursor]
  · rw [writeCursor_setWriteCursor, hused, Nat.add_assoc]
  · rw [hused]
    exact hfits
  · rw [hused, ← Nat.add_assoc]
    exact hexact
  · rw [setWriteCursor, stretch_storeNat _ _ _ _ _ (by decide), hused, stretch_add, h.unread,
      hmessage]
    simp
  · intro m' hm'
    rcases List.mem_append.1 hm' with hin | hin
    · exact h.length_le m' hin
    · rw [List.mem_singleton.1 hin]
      exact hlong

/-! ## Writing -/

/-- A write is refused for the reasons that the queue gives, and accepted otherwise. -/
theorem write_eq (h : r.Carries read q) (m : Bytes) :
    r.write m =
      if r.capacity / 2 < m.length then
        (.error (.messageTooLarge m.length (r.capacity / 2)), r)
      else if r.capacity < q.used + footprint m then
        (.error (.full (footprint m) (r.capacity - q.used)), r)
      else (.ok (), r.append m) := by
  have hle := h.used_le
  rw [write, Writing.run_start]
  simp only [h.unreadBetween_eq]
  by_cases hlong : r.capacity / 2 < m.length
  · rw [if_pos hlong, if_pos hlong]
  · rw [if_neg hlong, if_neg hlong]
    by_cases hfull : r.capacity < q.used + footprint m
    · rw [if_pos hfull, if_pos (by omega)]
    · rw [if_neg hfull, if_neg (by omega)]
      rfl

/-- The new message follows those that are there, and none of their bytes is touched. -/
theorem append_carries (h : r.Carries read q) {m : Bytes} (hlong : m.length ≤ r.capacity / 2)
    (hfits : q.used + footprint m ≤ r.capacity)
    (hexact : Exact r.capacity (read + q.used + footprint m)) :
    (r.append m).Carries read (q ++ [m]) := by
  have hsize : footprint m = m.length + lengthSize := rfl
  have hfour : (Bytes.ofNat lengthSize m.length).length = lengthSize := Bytes.length_ofNat _ _
  -- both copies begin at the place that their cursor stands for
  have hplace : (UInt64.ofNat (read + q.used)).toNat % r.capacity
      = (read + q.used) % r.capacity := h.exact.mod_eq
  have hplace' : (UInt64.ofNat (read + q.used) + UInt64.ofNat lengthSize).toNat % r.capacity
      = (read + q.used + lengthSize) % r.capacity := (hexact.mono (by omega)).add_mod_eq
  have hlength := stretch_copyIn r.memory hplace
    (show (Bytes.ofNat lengthSize m.length).length ≤ r.capacity by omega)
  rw [hfour] at hlength
  rw [append, h.writeCursor, ← UInt64.ofNat_add, copyMessage]
  exact ((h.copyIn_carries hplace (by omega) (by omega)).copyIn_carries hplace' (by simp)
    (by simp only; omega)).publish_carries hlong hfits hexact
      (stretch_message hplace' (by simp only; omega) hlength)

/-- Where counts are not exact a write overwrites what is unread: twelve does not divide 2^64, so
the cursor that passes 2^64 comes back to a place that the first message still lies at. -/
example :
    let cursor := UInt64.ofNat (UInt64.size - 8)
    let ring : Ring := ⟨12, setReadCursor (setWriteCursor (Memory.zeroed (controlSize + 12)) cursor)
      cursor⟩
    ((ring.write [1, 2, 3, 4]).2.write []).2.read.1 = .ok [0, 0, 0, 0] := by cbv

/-! ## Reading -/

theorem admitUnread_nil (h : r.Carries read []) :
    admitUnread r.capacity (Ring.readCursor r.memory) (Ring.writeCursor r.memory)
      = .error .empty := by
  rw [h.readCursor, h.writeCursor, Queue.used_nil, Nat.add_zero, admitUnread, if_pos rfl]

theorem admitUnread_cons {m : Bytes} (h : r.Carries read (m :: q)) :
    admitUnread r.capacity (Ring.readCursor r.memory) (Ring.writeCursor r.memory)
      = .ok (Queue.used (m :: q)) := by
  have hunread := h.unreadBetween_eq
  have hlong : ¬ Queue.used (m :: q) < lengthSize := by
    rw [Queue.used_cons, footprint]
    omega
  -- equal cursors would mean that nothing is unread, even after 2^64 bytes
  have hne : Ring.writeCursor r.memory ≠ Ring.readCursor r.memory := by
    intro heq
    rw [heq, unreadBetween, UInt64.sub_self] at hunread
    rw [UInt64.toNat_zero, Nat.zero_min] at hunread
    exact hlong (hunread ▸ (by decide))
  rw [admitUnread, if_neg hne]
  simp only [hunread, if_neg hlong]

/-- The tape at the read cursor: the length of the first message, the message, and the rest. -/
theorem stretch_cons {m : Bytes} (h : r.Carries read (m :: q)) :
    stretch r.capacity r.memory read lengthSize = Bytes.ofNat lengthSize m.length ∧
      stretch r.capacity r.memory (read + lengthSize) m.length = m ∧
      stretch r.capacity r.memory (read + footprint m) q.used = q.flatMap encodeMessage := by
  have hunread := h.unread
  have hsize : footprint m = lengthSize + m.length := Nat.add_comm _ _
  rw [Queue.used_cons, hsize, stretch_add, stretch_add, List.flatMap_cons, encodeMessage] at hunread
  obtain ⟨hmessage, hrest⟩ := List.append_inj hunread (by simp)
  obtain ⟨hlength, hbytes⟩ := List.append_inj hmessage (by simp)
  exact ⟨hlength, hbytes, by rw [hsize]; exact hrest⟩

/-- The length at the read cursor is accepted, be what is unread now or what was unread before more
was written. -/
theorem admitLength_of_le {m : Bytes} (h : r.Carries read (m :: q)) {unread : Nat}
    (hunread : footprint m ≤ unread) :
    admitLength r.capacity r.memory (Ring.readCursor r.memory) unread = .ok m.length := by
  have hle := h.length_le m (List.mem_cons_self ..)
  have hmax := h.le_max
  have hmin := h.min_le
  -- the cursor is the count modulo 2^64, and the tape only knows the count modulo the capacity
  have hplace : (UInt64.ofNat read).toNat % r.capacity = read % r.capacity :=
    (h.exact.mono (Nat.le_add_right _ _)).mod_eq
  have hlt : m.length < Nat.pow 256 lengthSize :=
    Nat.lt_of_le_of_lt (show m.length ≤ maxCapacity by omega) (by decide)
  have hlength : Bytes.toNat (copyOut r.capacity r.memory (Ring.readCursor r.memory) lengthSize)
      = m.length := by
    rw [copyOut_eq_stretch (Nat.le_trans (by decide) hmin), h.readCursor, ← stretch_mod, hplace,
      stretch_mod, h.stretch_cons.1, Bytes.toNat_ofNat, Nat.mod_eq_of_lt hlt]
  have hfits : ¬ unread - lengthSize < m.length := by
    rw [footprint] at hunread
    omega
  unfold admitLength
  simp only [hlength, if_neg hfits]

theorem admitLength_cons {m : Bytes} (h : r.Carries read (m :: q)) :
    admitLength r.capacity r.memory (Ring.readCursor r.memory) (Queue.used (m :: q))
      = .ok m.length :=
  h.admitLength_of_le (Nat.le_add_right _ _)

/-- The message behind the read cursor. -/
theorem copyOut_cons {m : Bytes} (h : r.Carries read (m :: q)) :
    copyOut r.capacity r.memory (Ring.readCursor r.memory + UInt64.ofNat lengthSize) m.length
      = m := by
  have hle := h.length_le m (List.mem_cons_self ..)
  have hused : Queue.used (m :: q) = m.length + lengthSize + q.used := Queue.used_cons m q
  have hplace : (UInt64.ofNat read + UInt64.ofNat lengthSize).toNat % r.capacity
      = (read + lengthSize) % r.capacity := (h.exact.mono (by omega)).add_mod_eq
  rw [copyOut_eq_stretch (by omega), h.readCursor, ← stretch_mod, hplace, stretch_mod,
    h.stretch_cons.2.1]

theorem readingRun_nil (h : r.Carries read []) (room : Option Nat) :
    Reading.run r.capacity room .start r.memory = (.error .empty, r.memory) := by
  rw [Reading.run_start, h.admitUnread_nil]

/-- A read delivers the head of the queue, unless the buffer cannot hold it. -/
theorem readingRun_cons {m : Bytes} (h : r.Carries read (m :: q)) (room : Option Nat) :
    Reading.run r.capacity room .start r.memory =
      if room.any fun n => decide (n < m.length) then
        (.error (.bufferTooSmall m.length), r.memory)
      else (.ok m, (r.drop m).memory) := by
  rw [Reading.run_start]
  simp only [h.admitUnread_cons, h.admitLength_cons, h.copyOut_cons]
  rfl

theorem read_nil (h : r.Carries read []) : r.read = (.error .empty, r) := by
  rw [Ring.read, h.readingRun_nil]

theorem readInto_nil (h : r.Carries read []) (room : Nat) :
    r.readInto room = (.error .empty, r) := by
  rw [readInto, h.readingRun_nil]

theorem peek_nil (h : r.Carries read []) : r.peek = .error .empty := by
  simp only [peek, h.admitUnread_nil]
  rfl

theorem read_cons {m : Bytes} (h : r.Carries read (m :: q)) : r.read = (.ok m, r.drop m) := by
  rw [Ring.read, h.readingRun_cons, if_neg (by simp)]
  rfl

/-- A buffer that cannot hold the message leaves it where it is. -/
theorem readInto_cons {m : Bytes} (h : r.Carries read (m :: q)) (room : Nat) :
    r.readInto room =
      if room < m.length then (.error (.bufferTooSmall m.length), r) else (.ok m, r.drop m) := by
  rw [readInto, h.readingRun_cons]
  by_cases hroom : room < m.length
  · rw [if_pos (by simpa using hroom), if_pos hroom]
  · rw [if_neg (by simpa using hroom), if_neg hroom]
    rfl

theorem peek_cons {m : Bytes} (h : r.Carries read (m :: q)) : r.peek = .ok m.length := by
  simp only [peek, h.admitUnread_cons, h.admitLength_cons, bind, Except.bind]

/-- What is left when the head was taken. -/
theorem drop_carries {m : Bytes} (h : r.Carries read (m :: q)) :
    (r.drop m).Carries (read + footprint m) q := by
  have hused : Queue.used (m :: q) = footprint m + q.used := Queue.used_cons m q
  have hle := h.used_le
  -- the read cursor moves and the write cursor stays, so their distance shrinks by the message
  have hsum : read + footprint m + q.used = read + Queue.used (m :: q) := by omega
  have hcursor : Ring.readCursor r.memory + UInt64.ofNat (lengthSize + m.length)
      = UInt64.ofNat (read + footprint m) := by
    rw [h.readCursor, ← UInt64.ofNat_add, footprint, Nat.add_comm lengthSize]
  have hmemory : (r.drop m).memory
      = setReadCursor r.memory (UInt64.ofNat (read + footprint m)) := by rw [drop, hcursor]
  constructor
  · rw [capacity_drop]
    exact h.min_le
  · rw [capacity_drop]
    exact h.le_max
  · rw [hmemory, readCursor_setReadCursor]
  · rw [hmemory, writeCursor_setReadCursor, h.writeCursor, hsum]
  · rw [capacity_drop]
    omega
  · rw [capacity_drop, hsum]
    exact h.exact
  · rw [capacity_drop, hmemory, setReadCursor, stretch_storeNat _ _ _ _ _ (by decide)]
    exact h.stretch_cons.2.2
  · intro m' hm'
    rw [capacity_drop]
    exact h.length_le m' (List.mem_cons_of_mem m hm')

end Carries

/-! ## New rings -/

theorem writeCursor_resetCursors (m : Memory) : writeCursor (resetCursors m) = 0 := by
  rw [writeCursor, resetCursors, Memory.loadNat_storeNat_of_disjoint _ _ _ _ _ _ (by decide),
    Memory.loadNat_storeNat_of_disjoint _ _ _ _ _ _ (by decide),
    Memory.loadNat_storeNat_of_disjoint _ _ _ _ _ _ (by decide), Memory.loadNat_storeNat,
    Nat.zero_mod]
  rfl

theorem readCursor_resetCursors (m : Memory) : readCursor (resetCursors m) = 0 := by
  rw [readCursor, resetCursors, Memory.loadNat_storeNat_of_disjoint _ _ _ _ _ _ (by decide),
    Memory.loadNat_storeNat_of_disjoint _ _ _ _ _ _ (by decide), Memory.loadNat_storeNat,
    Nat.zero_mod]
  rfl

theorem checkCapacity_eq_ok {capacity : Nat} :
    checkCapacity capacity = .ok () ↔ minCapacity ≤ capacity ∧ capacity ≤ maxCapacity := by
  rw [checkCapacity]
  split
  · simp_all
  · simp_all

theorem resetCursors_carries {capacity : Nat} (h : checkCapacity capacity = .ok ()) (m : Memory) :
    Carries ⟨capacity, resetCursors m⟩ 0 [] := by
  obtain ⟨hmin, hmax⟩ := checkCapacity_eq_ok.1 h
  constructor
  · exact hmin
  · exact hmax
  · exact readCursor_resetCursors m
  · exact writeCursor_resetCursors m
  · exact Nat.zero_le _
  · exact .inl (by decide)
  · rfl
  · intro m' hm'
    cases hm'

/-- Whatever the memory held before, a ring that is made there carries nothing. -/
theorem publishCapacity_carries {capacity : Nat} (h : checkCapacity capacity = .ok ())
    (m : Memory) : Carries ⟨capacity, publishCapacity (resetCursors m) capacity⟩ 0 [] :=
  (resetCursors_carries h m).storeNat_carries capacity (by decide) (by decide)

theorem create_eq_ok {capacity : Nat} {r : Ring} (h : create capacity = .ok r) :
    r.capacity = capacity ∧ r.Carries 0 [] := by
  cases hcapacity : checkCapacity capacity with
  | error e =>
    rw [create, hcapacity] at h
    cases h
  | ok u =>
    rw [create, hcapacity] at h
    cases h
    exact ⟨rfl, publishCapacity_carries hcapacity _⟩

/-- An empty ring carries nothing, wherever its cursors stand. -/
theorem carries_of_isEmpty {r : Ring}
    (hcapacity : minCapacity ≤ r.capacity ∧ r.capacity ≤ maxCapacity)
    (hempty : r.isEmpty = true) : r.Carries (writeCursor r.memory).toNat [] := by
  obtain ⟨hmin, hmax⟩ := hcapacity
  have hpos : 0 < r.capacity := Nat.lt_of_lt_of_le (by decide) hmin
  have hzero : (writeCursor r.memory - readCursor r.memory).toNat = 0 := by
    have hunread : r.availableRead = 0 := by simpa [isEmpty] using hempty
    rw [availableRead, unreadBetween] at hunread
    omega
  have heq : readCursor r.memory = writeCursor r.memory := by
    have hsub : writeCursor r.memory - readCursor r.memory = 0 := UInt64.toNat_inj.1 hzero
    grind
  constructor
  · exact hmin
  · exact hmax
  · rw [UInt64.ofNat_toNat, heq]
  · rw [Queue.used_nil, Nat.add_zero, UInt64.ofNat_toNat]
  · exact Nat.zero_le _
  · rw [Queue.used_nil, Nat.add_zero]
    exact .inl (UInt64.toNat_lt _)
  · rfl
  · intro m hm
    cases hm

end Telemetry.Ring
