import Telemetry.Proofs.Ring.Opening

/-!
# Rings are queues

Whoever works on a ring, through whichever handle, sees a queue of byte strings that has `used`
bytes for its messages and their lengths. `Queue.perform` says what each operation does to the queue
and what it replies, and knows nothing of cursors, places or memory. One operation on a ring does
the same (`perform_follows`), and so does every sequence of them on a new ring
(`handles_share_a_queue`).

The induction of `performAll_follows` is on the calls, with `Carries` for one fixed handle as its
invariant. It does not matter which handle a call goes through: handles on one ring have the same
segment and capacity, so they see the same ring and put it back at the same place
(`Handle.SameRing.ring_eq`, `Handle.SameRing.put_eq`). The bytes written so far are counted along,
since the cursors are exact only as long as their number is (`Exact`).
-/

namespace Telemetry.Ring

/-! ## Operations -/

/-- A whole operation on a ring. -/
inductive Op where
  /-- Append a message. -/
  | write (m : Bytes)
  /-- Take the next message into a buffer of `room` bytes. -/
  | readInto (room : Nat)
  /-- Take the next message, whatever its length. -/
  | read
  /-- Ask for the length of the next message. -/
  | peek
  /-- Record the process that writes. -/
  | claimWriter (process : Nat)
  /-- Record the process that reads. -/
  | claimReader (process : Nat)
  deriving DecidableEq, Repr

/-- What an operation that succeeds has to say. -/
inductive Reply where
  | done
  | message (m : Bytes)
  | length (n : Nat)
  deriving DecidableEq, Repr

/-- An operation on a ring. -/
def perform : Op → Ring → Except RingError Reply × Ring
  | .write m, r => ((r.write m).1.map fun _ => .done, (r.write m).2)
  | .readInto room, r => ((r.readInto room).1.map .message, (r.readInto room).2)
  | .read, r => (r.read.1.map .message, r.read.2)
  | .peek, r => (r.peek.map .length, r)
  | .claimWriter process, r => (.ok .done, r.claimWriter process)
  | .claimReader process, r => (.ok .done, r.claimReader process)

/-- The same operation on a queue in a circle of `capacity` bytes. -/
def Queue.perform (capacity : Nat) : Op → Queue → Except RingError Reply × Queue
  | .write m, q =>
    if capacity / 2 < m.length then (.error (.messageTooLarge m.length (capacity / 2)), q)
    else if capacity < q.used + footprint m then
      (.error (.full (footprint m) (capacity - q.used)), q)
    else (.ok .done, q ++ [m])
  | .readInto _, [] => (.error .empty, [])
  | .readInto room, m :: q =>
    if room < m.length then (.error (.bufferTooSmall m.length), m :: q) else (.ok (.message m), q)
  | .read, [] => (.error .empty, [])
  | .read, m :: q => (.ok (.message m), q)
  | .peek, [] => (.error .empty, [])
  | .peek, m :: q => (.ok (.length m.length), m :: q)
  | .claimWriter _, q => (.ok .done, q)
  | .claimReader _, q => (.ok .done, q)

/-- The bytes that an operation adds to the queue. -/
def Queue.growth (capacity : Nat) : Op → Queue → Nat
  | .write m, q =>
    if capacity / 2 < m.length ∨ capacity < q.used + footprint m then 0 else footprint m
  | _, _ => 0

/-! ## One operation -/

@[simp] theorem capacity_claimWriter (r : Ring) (process : Nat) :
    (r.claimWriter process).capacity = r.capacity := by rw [claimWriter]

@[simp] theorem capacity_claimReader (r : Ring) (process : Nat) :
    (r.claimReader process).capacity = r.capacity := by rw [claimReader]

theorem claimWriter_carries {r : Ring} {read : Nat} {q : Queue} (h : r.Carries read q)
    (process : Nat) : (r.claimWriter process).Carries read q :=
  h.storeNat_carries process (by decide) (by decide)

theorem claimReader_carries {r : Ring} {read : Nat} {q : Queue} (h : r.Carries read q)
    (process : Nat) : (r.claimReader process).Carries read q :=
  h.storeNat_carries process (by decide) (by decide)

/-- A ring that has taken an operation over from a queue: it carries what the queue has become. -/
structure Follows (capacity count : Nat) (ring : Except RingError Reply × Ring)
    (queue : Except RingError Reply × Queue) : Prop where
  reply_eq : ring.1 = queue.1
  capacity_eq : ring.2.capacity = capacity
  carries : ∃ read, ring.2.Carries read queue.2 ∧ read + queue.2.used = count

variable {r : Ring} {read : Nat} {q : Queue}

theorem follows_of_carries (h : r.Carries read q) (reply : Except RingError Reply) :
    Follows r.capacity (read + q.used) (reply, r) (reply, q) :=
  ⟨rfl, rfl, read, h, rfl⟩

theorem follows_drop {m : Bytes} (h : r.Carries read (m :: q)) (reply : Except RingError Reply) :
    Follows r.capacity (read + Queue.used (m :: q)) (reply, r.drop m) (reply, q) := by
  refine ⟨rfl, capacity_drop r m, read + footprint m, h.drop_carries, ?_⟩
  rw [Queue.used_cons, Nat.add_assoc]

theorem follows_write (h : r.Carries read q) (m : Bytes)
    (hexact : Exact r.capacity (read + q.used + q.growth r.capacity (.write m))) :
    Follows r.capacity (read + q.used + q.growth r.capacity (.write m)) (perform (.write m) r)
      (q.perform r.capacity (.write m)) := by
  rw [perform, h.write_eq, Queue.perform]
  rw [Queue.growth] at hexact ⊢
  by_cases hlong : r.capacity / 2 < m.length
  · rw [if_pos hlong, if_pos hlong, if_pos (.inl hlong)]
    exact follows_of_carries h _
  · rw [if_neg hlong, if_neg hlong]
    -- both sides refuse in the same order: first the message, then the room
    by_cases hfull : r.capacity < q.used + footprint m
    · rw [if_pos hfull, if_pos hfull, if_pos (.inr hfull)]
      exact follows_of_carries h _
    · rw [if_neg (not_or.2 ⟨hlong, hfull⟩)] at hexact
      rw [if_neg hfull, if_neg hfull, if_neg (not_or.2 ⟨hlong, hfull⟩)]
      have hcarries := h.append_carries (Nat.le_of_not_lt hlong) (Nat.le_of_not_lt hfull) hexact
      refine ⟨rfl, capacity_append r m, read, hcarries, ?_⟩
      show read + Queue.used (q ++ [m]) = _
      rw [Queue.used_append, Queue.used_cons, Queue.used_nil]
      omega

/-- An operation on a ring is the operation on the queue that it carries. -/
theorem perform_follows (h : r.Carries read q) (op : Op)
    (hexact : Exact r.capacity (read + q.used + q.growth r.capacity op)) :
    Follows r.capacity (read + q.used + q.growth r.capacity op) (perform op r)
      (q.perform r.capacity op) := by
  cases op with
  | write m => exact follows_write h m hexact
  | readInto room =>
    cases q with
    | nil =>
      rw [perform, h.readInto_nil]
      exact follows_of_carries h _
    | cons m q =>
      rw [perform, h.readInto_cons, Queue.perform]
      by_cases hroom : room < m.length
      · rw [if_pos hroom, if_pos hroom]
        exact follows_of_carries h _
      · rw [if_neg hroom, if_neg hroom]
        exact follows_drop h _
  | read =>
    cases q with
    | nil =>
      rw [perform, h.read_nil]
      exact follows_of_carries h _
    | cons m q =>
      rw [perform, h.read_cons]
      exact follows_drop h _
  | peek =>
    cases q with
    | nil =>
      rw [perform, h.peek_nil]
      exact follows_of_carries h _
    | cons m q =>
      rw [perform, h.peek_cons]
      exact follows_of_carries h _
  | claimWriter process =>
    exact ⟨rfl, capacity_claimWriter r process, read, claimWriter_carries h process, rfl⟩
  | claimReader process =>
    exact ⟨rfl, capacity_claimReader r process, read, claimReader_carries h process, rfl⟩

/-! ## Many operations, through many handles -/

/-- Whether two handles are handles on one ring. -/
def Handle.SameRing (h h' : Handle) : Prop := h.segment = h'.segment ∧ h.capacity = h'.capacity

/-- Operations through handles, one after another, and what each of them replies. -/
def performAll : List (Handle × Op) → SharedMemory → List (Except RingError Reply) × SharedMemory
  | [], s => ([], s)
  | (h, op) :: calls, s =>
    let first := h.work s (perform op)
    let rest := performAll calls first.2
    (first.1 :: rest.1, rest.2)

/-- The same operations on a queue. -/
def Queue.performAll (capacity : Nat) : List Op → Queue → List (Except RingError Reply) × Queue
  | [], q => ([], q)
  | op :: ops, q =>
    let first := q.perform capacity op
    let rest := Queue.performAll capacity ops first.2
    (first.1 :: rest.1, rest.2)

/-- The bytes that operations write, lengths included. -/
def Queue.written (capacity : Nat) : List Op → Queue → Nat
  | [], _ => 0
  | op :: ops, q => q.growth capacity op + Queue.written capacity ops (q.perform capacity op).2

namespace Handle

variable {h h' : Handle} {s : SharedMemory}

theorem SameRing.ring_eq (hsame : h.SameRing h') (s : SharedMemory) : h.ring s = h'.ring s := by
  rw [ring, ring, hsame.1, hsame.2]

theorem SameRing.put_eq (hsame : h.SameRing h') (s : SharedMemory) (r : Ring) :
    h.put s r = h'.put s r := by rw [put, put, hsame.1]

theorem ring_put (hlt : h.segment < s.segments.size) {r : Ring} (hr : r.capacity = h.capacity) :
    h.ring (h.put s r) = r := by
  rw [ring, put, SharedMemory.segment_modify hlt, ← hr]

theorem work_eq {α : Type} (h : Handle) (s : SharedMemory) (f : Ring → α × Ring) :
    h.work s f = ((f (h.ring s)).1, h.put s (f (h.ring s)).2) := rfl

end Handle

theorem performAll_follows {h : Handle} : ∀ (calls : List (Handle × Op)) {s : SharedMemory}
    {read : Nat} {q : Queue}, h.segment < s.segments.size → (h.ring s).Carries read q →
    (∀ c ∈ calls, c.1.SameRing h) →
    Exact h.capacity (read + q.used + q.written h.capacity (calls.map Prod.snd)) →
    (performAll calls s).1 = (q.performAll h.capacity (calls.map Prod.snd)).1 ∧
      ∃ read', (h.ring (performAll calls s).2).Carries read'
        (q.performAll h.capacity (calls.map Prod.snd)).2
  | [], s, read, q, _, hcarries, _, _ => ⟨rfl, read, hcarries⟩
  | (h', op) :: calls, s, read, q, hlt, hcarries, hsame, hexact => by
      have hring : h'.SameRing h := hsame _ (List.mem_cons_self ..)
      simp only [List.map_cons, Queue.written, ← Nat.add_assoc] at hexact
      obtain ⟨hreply, hcapacity, read', hcarries', hcount⟩ : Follows h.capacity
          (read + q.used + q.growth h.capacity op) (perform op (h.ring s))
          (q.perform h.capacity op) :=
        perform_follows hcarries op (hexact.mono (Nat.le_add_right _ _))
      rw [← hcount] at hexact
      -- whichever handle the operation goes through, `h` sees its outcome
      have hput : h.ring (h.put s (perform op (h.ring s)).2) = (perform op (h.ring s)).2 :=
        Handle.ring_put hlt hcapacity
      obtain ⟨hreplies, read'', hcarries''⟩ := performAll_follows calls
        (s := h.put s (perform op (h.ring s)).2)
        (by rw [Handle.put, SharedMemory.size_modify]; exact hlt) (by rw [hput]; exact hcarries')
        (fun c hc => hsame c (List.mem_cons_of_mem _ hc)) hexact
      rw [List.map_cons, performAll, Queue.performAll, Handle.work_eq, hring.ring_eq, hring.put_eq]
      exact ⟨by rw [hreply, hreplies], read'', hcarries''⟩

/-- A drained ring has room for every message that is not over half the circle, wherever its cursors
stand: half a circle and a length fit in a circle of eight bytes or more. -/
theorem write_of_drained {r : Ring} {read : Nat} (h : r.Carries read []) {m : Bytes}
    (hm : m.length ≤ r.capacity / 2) : r.write m = (.ok (), r.append m) := by
  have hmin : 8 ≤ r.capacity := h.min_le
  have hfits : ¬ r.capacity < Queue.used [] + footprint m := by
    have hsize : footprint m = m.length + 4 := rfl
    rw [Queue.used_nil]
    omega
  rw [h.write_eq, if_neg (Nat.not_lt.2 hm), if_neg hfits]

/-- A new ring is an empty queue, and stays a queue whatever is done with it, through whichever of
its handles, as long as the bytes ever written can be counted in 64 bits; where the capacity divides
2^64 there is no such bound. Every operation replies what the queue replies, and after every one
(the operations so far are operations too) each handle sees as much unread and as much free as the
queue says. When the queue is empty, every message of at most half the circle is accepted. -/
theorem handles_share_a_queue {capacity : Nat}
    (hcapacity : minCapacity ≤ capacity ∧ capacity ≤ maxCapacity) (s₀ : SharedMemory) :
    (∃ h s, openPrivate s₀ capacity = (.ok h, s)) ∧
    ∀ h s, Created s₀ capacity h s →
      ∀ calls : List (Handle × Op), (∀ c ∈ calls, c.1.SameRing h) →
        Exact capacity (Queue.written capacity (calls.map Prod.snd) []) →
        let ring := performAll calls s
        let queue := Queue.performAll capacity (calls.map Prod.snd) []
        ring.1 = queue.1 ∧
          ∀ h' : Handle, h'.SameRing h →
            (h'.ring ring.2).availableRead = queue.2.used ∧
            (h'.ring ring.2).availableWrite = capacity - queue.2.used ∧
            (queue.2 = [] → ∀ m : Bytes, m.length ≤ capacity / 2 →
              ((h'.ring ring.2).write m).1 = .ok ()) := by
  have hcheck := checkCapacity_eq_ok.2 hcapacity
  refine ⟨⟨_, _, openPrivate_eq hcheck s₀⟩, ?_⟩
  intro h s hnew calls hsame hexact
  have hmade := made_of_created hnew
  have heq : h.capacity = capacity := hmade.capacity_eq
  rw [← heq] at hexact
  obtain ⟨hreplies, read, hcarries⟩ := performAll_follows calls hmade.segment_lt
    (hmade.carries hcheck) hsame (by simpa using hexact)
  rw [heq] at hreplies hcarries
  refine ⟨hreplies, ?_⟩
  intro h' hsame'
  rw [hsame'.ring_eq]
  have hcircle : (h.ring (performAll calls s).2).capacity = capacity := heq
  refine ⟨hcarries.availableRead_eq, ?_, ?_⟩
  · rw [hcarries.availableWrite_eq, hcircle]
  · intro hempty m hm
    rw [hempty] at hcarries
    rw [write_of_drained hcarries (hcircle.symm ▸ hm)]

/-- Nine bytes of circle: the second message is refused until the first is taken, and then lies
across the end of the circle. -/
theorem handles_share_nine_bytes :
    let writer : Handle := ⟨0, 9, true⟩
    let reader : Handle := ⟨0, 9, false⟩
    let new := openPrivate SharedMemory.empty 9
    let ring := performAll [(writer, .claimWriter 7), (writer, .write [1, 2, 3, 4]),
      (writer, .write [5, 6]), (reader, .readInto 3), (reader, .readInto 4),
      (writer, .write [5, 6]), (reader, .peek), (reader, .read), (reader, .read)] new.2
    new.1 = .ok writer ∧ reader.SameRing writer ∧
      ring.1 = [.ok .done, .ok .done, .error (.full 6 1), .error (.bufferTooSmall 4),
        .ok (.message [1, 2, 3, 4]), .ok .done, .ok (.length 2), .ok (.message [5, 6]),
        .error .empty] ∧
      (reader.ring ring.2).availableRead = 0 ∧ (reader.ring ring.2).availableWrite = 9 ∧
      ((writer.ring ring.2).write [1, 2, 3, 4]).1 = .ok () := by
  intro writer reader new ring
  have hnew : Created SharedMemory.empty 9 writer new.2 := .inl rfl
  have hsame : reader.SameRing writer := ⟨rfl, rfl⟩
  obtain ⟨hreplies, hseen⟩ := (handles_share_a_queue (show minCapacity ≤ 9 ∧ 9 ≤ maxCapacity by
    decide) SharedMemory.empty).2 writer new.2 hnew
    [(writer, .claimWriter 7), (writer, .write [1, 2, 3, 4]), (writer, .write [5, 6]),
      (reader, .readInto 3), (reader, .readInto 4), (writer, .write [5, 6]), (reader, .peek),
      (reader, .read), (reader, .read)]
    (by simp [Handle.SameRing, writer, reader]) (.inl (by decide))
  obtain ⟨hread, hwrite, _⟩ := hseen reader hsame
  obtain ⟨_, _, hdrained⟩ := hseen writer ⟨rfl, rfl⟩
  exact ⟨rfl, hsame, hreplies, hread, hwrite, hdrained rfl [1, 2, 3, 4] (by decide)⟩

end Telemetry.Ring
