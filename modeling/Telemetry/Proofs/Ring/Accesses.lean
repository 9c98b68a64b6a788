import Mathlib.Order.Interval.Set.Basic
import Telemetry.Proofs.Ring.Queue

/-!
# The accesses of ring operations

What an operation replies and leaves behind does not show which positions it looked at on the way:
a byte that is loaded and then ignored, or stored over and put back, leaves no mark. `Op.traced` is
each operation written out as its loads and stores, one after another, in memory that keeps a list
of them. `traced_stays_within` says of every operation and every memory that this program comes to
what the operation comes to, that every access in the list lies in the control block and the circle,
and that every store lies in the operation's own part of them.

The proof follows the program from the top down, one lemma for each primitive and for each function
(`Does`). Only the copies ask for anything: their length must fit in the circle. For the length of a
message that is what the checks in front of the copy are for, whatever the memory holds
(`admitUnread_le`, and the comparison with what is unread).
-/

namespace Telemetry.Ring

/-! ## The region of a ring -/

/-- The positions of the control block and of the circle. -/
def region (capacity : Nat) : Set Nat := Set.Iio (controlSize + capacity)

/-- The positions of the circle. -/
def circle (capacity : Nat) : Set Nat := Set.Ico controlSize (controlSize + capacity)

/-- The positions of the write cursor. -/
def writeCursorField : Set Nat := Set.Ico writeCursorAt (writeCursorAt + 8)

/-- The positions of the read cursor. -/
def readCursorField : Set Nat := Set.Ico readCursorAt (readCursorAt + 8)

/-- The positions at which an operation stores something. -/
def Op.stores (capacity : Nat) : Op → Set Nat
  | .write _ => writeCursorField ∪ circle capacity
  | .readInto _ | .read => readCursorField
  | .peek => ∅
  | .claimWriter _ => Set.Ico writerAt (writerAt + 4)
  | .claimReader _ => Set.Ico readerAt (readerAt + 4)

/-- An operation on the ring of a capacity in a region of memory. -/
def Op.onMemory (op : Op) (capacity : Nat) (m : Memory) : Except RingError Reply × Memory :=
  ((perform op ⟨capacity, m⟩).1, (perform op ⟨capacity, m⟩).2.memory)

variable {capacity : Nat} {m : Memory}

/-- A field of the control block lies in the region. -/
theorem field_subset_region {start width : Nat} (h : start + width ≤ controlSize) :
    Set.Ico start (start + width) ⊆ region capacity := by
  intro j hj
  simp only [region, Set.mem_Ico, Set.mem_Iio] at hj ⊢
  omega

theorem circle_subset_region : circle capacity ⊆ region capacity := fun _ hj => hj.2

/-- The part of a copy that reaches from a place to the end of the circle at most. -/
theorem front_subset_circle {cursor : UInt64} {width : Nat}
    (h : width ≤ capacity - place capacity cursor) :
    Set.Ico (controlSize + place capacity cursor) (controlSize + place capacity cursor + width)
      ⊆ circle capacity := by
  intro j hj
  simp only [circle, Set.mem_Ico] at hj ⊢
  omega

/-- The part of a copy that goes on from the start of the circle. -/
theorem rest_subset_circle {width : Nat} (h : width ≤ capacity) :
    Set.Ico controlSize (controlSize + width) ⊆ circle capacity := by
  intro j hj
  simp only [circle, Set.mem_Ico] at hj ⊢
  omega

/-- The two parts of bytes that fit in the circle. -/
theorem parts_subset_circle {bs : Bytes} (hfits : bs.length ≤ capacity) (cursor : UInt64) :
    Set.Ico (controlSize + place capacity cursor) (controlSize + place capacity cursor
        + (bs.take (capacity - place capacity cursor)).length) ⊆ circle capacity ∧
      Set.Ico controlSize (controlSize + (bs.drop (capacity - place capacity cursor)).length)
        ⊆ circle capacity := by
  refine ⟨front_subset_circle (bs.length_take_le _), rest_subset_circle ?_⟩
  rw [List.length_drop]
  omega

theorem stores_subset_region (op : Op) : op.stores capacity ⊆ region capacity := by
  cases op with
  | write message =>
      exact Set.union_subset (field_subset_region (by decide)) circle_subset_region
  | readInto room => exact field_subset_region (by decide)
  | read => exact field_subset_region (by decide)
  | peek => exact Set.empty_subset _
  | claimWriter process => exact field_subset_region (by decide)
  | claimReader process => exact field_subset_region (by decide)

theorem admitUnread_le {read write : UInt64} {unread : Nat}
    (h : admitUnread capacity read write = .ok unread) :
    lengthSize ≤ unread ∧ unread ≤ capacity := by
  obtain ⟨hfour, hunread⟩ := admitUnread_eq_ok h
  exact ⟨hfour, hunread ▸ Nat.min_le_right _ _⟩

/-! ## Accesses -/

/-- One access to memory: the stretch it touches, and whether it stores there or only loads. -/
structure Access where
  start : Nat
  width : Nat
  stores : Bool
  deriving DecidableEq, Repr

namespace Access

def positions (a : Access) : Set Nat := Set.Ico a.start (a.start + a.width)

/-- An access that stays within some positions and stores only in some of them. -/
structure Within (looks stores : Set Nat) (a : Access) : Prop where
  positions_subset : a.positions ⊆ looks
  stores_subset : a.stores = true → a.positions ⊆ stores

end Access

/-- Memory that keeps a list of its accesses, the first one in front. -/
structure Traced where
  memory : Memory
  accesses : List Access

namespace Traced

def load (start width : Nat) : StateM Traced Bytes := fun t =>
  (t.memory.load start width, { t with accesses := t.accesses ++ [⟨start, width, false⟩] })

def store (start : Nat) (bs : Bytes) : StateM Traced Unit := fun t =>
  ((), ⟨t.memory.store start bs, t.accesses ++ [⟨start, bs.length, true⟩]⟩)

def loadCursor (start : Nat) : StateM Traced UInt64 := do
  return UInt64.ofNat (Bytes.toNat (← load start 8))

/-- The two parts of a copy into the circle; the second is empty unless the bytes reach its end. -/
def copyIn (capacity : Nat) (cursor : UInt64) (bs : Bytes) : StateM Traced Unit := do
  let start := place capacity cursor
  store (controlSize + start) (bs.take (capacity - start))
  store controlSize (bs.drop (capacity - start))

/-- The two parts of a copy out of the circle. -/
def copyOut (capacity : Nat) (cursor : UInt64) (length : Nat) : StateM Traced Bytes := do
  let start := place capacity cursor
  let front := min length (capacity - start)
  return (← load (controlSize + start) front) ++ (← load controlSize (length - front))

def write (capacity : Nat) (message : Bytes) : StateM Traced (Except RingError Unit) :=
  if capacity / 2 < message.length then
    return .error (.messageTooLarge message.length (capacity / 2))
  else do
    let cursor ← loadCursor writeCursorAt
    let read ← loadCursor readCursorAt
    let available := capacity - unreadBetween capacity read cursor
    if available < footprint message then
      return .error (.full (footprint message) available)
    else do
      copyIn capacity cursor (Bytes.ofNat lengthSize message.length)
      copyIn capacity (cursor + UInt64.ofNat lengthSize) message
      store writeCursorAt (Bytes.ofNat 8 (cursor + UInt64.ofNat (footprint message)).toNat)
      return .ok ()

def peek (capacity : Nat) : StateM Traced (Except RingError Nat) := do
  let read ← loadCursor readCursorAt
  let write ← loadCursor writeCursorAt
  match admitUnread capacity read write with
  | .error e => return .error e
  | .ok unread =>
    let length := Bytes.toNat (← copyOut capacity read lengthSize)
    if unread - lengthSize < length then
      return .error (.corrupted length (unread - lengthSize))
    else return .ok length

/-- Takes a message whose length is known. The read cursor is loaded again: nobody but the reader
moves it. -/
def consume (capacity length : Nat) : StateM Traced Bytes := do
  let cursor ← loadCursor readCursorAt
  let message ← copyOut capacity (cursor + UInt64.ofNat lengthSize) length
  store readCursorAt (Bytes.ofNat 8 (cursor + UInt64.ofNat (lengthSize + message.length)).toNat)
  return message

def read (capacity : Nat) (room : Option Nat) : StateM Traced (Except RingError Bytes) := do
  match ← peek capacity with
  | .error e => return .error e
  | .ok length =>
    if room.any fun n => decide (n < length) then return .error (.bufferTooSmall length)
    else return .ok (← consume capacity length)

/-- Records a process in a field of the control block. -/
def claim (start process : Nat) : StateM Traced (Except RingError Reply) := do
  store start (Bytes.ofNat 4 process)
  return .ok .done

end Traced

/-- The loads and stores of an operation, one after another. -/
def Op.traced (op : Op) (capacity : Nat) : StateM Traced (Except RingError Reply) :=
  match op with
  | .write message => return (← Traced.write capacity message).map fun _ => .done
  | .readInto room => return (← Traced.read capacity (some room)).map .message
  | .read => return (← Traced.read capacity none).map .message
  | .peek => return (← Traced.peek capacity).map .length
  | .claimWriter process => Traced.claim writerAt process
  | .claimReader process => Traced.claim readerAt process

/-! ## What work comes to, and where it was -/

/-- Work on a memory comes to a result and a memory, and all its accesses have a property. -/
def Does {α : Type} (P : Access → Prop) (work : StateM Traced α) (m : Memory) (a : α)
    (m' : Memory) : Prop :=
  ∀ before, ∃ accesses, work ⟨m, before⟩ = (a, ⟨m', before ++ accesses⟩) ∧ ∀ x ∈ accesses, P x

namespace Does

variable {α β : Type} {P : Access → Prop} {m m' m'' : Memory}

theorem pure (a : α) : Does P (Pure.pure a) m a m := by
  intro before
  exact ⟨[], by rw [List.append_nil]; rfl, by simp⟩

theorem bind {work : StateM Traced α} {next : α → StateM Traced β} {a : α} {b : β}
    (h : Does P work m a m') (hnext : Does P (next a) m' b m'') :
    Does P (work >>= next) m b m'' := by
  intro before
  obtain ⟨early, hwork, hearly⟩ := h before
  obtain ⟨late, hafter, hlate⟩ := hnext (before ++ early)
  refine ⟨early ++ late, ?_, ?_⟩
  · rw [← List.append_assoc, ← hafter]
    show next (work ⟨m, before⟩).1 (work ⟨m, before⟩).2 = _
    rw [hwork]
  · intro x hx
    rcases List.mem_append.1 hx with hin | hin
    · exact hearly x hin
    · exact hlate x hin

theorem map {work : StateM Traced α} {a : α} (h : Does P work m a m') (f : α → β) :
    Does P (do return f (← work)) m (f a) m' :=
  h.bind (.pure (f a))

theorem load {start width : Nat} (h : P ⟨start, width, false⟩) :
    Does P (Traced.load start width) m (m.load start width) m := by
  intro before
  exact ⟨[⟨start, width, false⟩], rfl, by simpa using h⟩

theorem store {start : Nat} {bs : Bytes} (h : P ⟨start, bs.length, true⟩) :
    Does P (Traced.store start bs) m () (m.store start bs) := by
  intro before
  exact ⟨[⟨start, bs.length, true⟩], rfl, by simpa using h⟩

end Does

/-! ## One function after another -/

variable {stores : Set Nat}

theorem does_load {start width : Nat} (h : Set.Ico start (start + width) ⊆ region capacity) :
    Does (Access.Within (region capacity) stores) (Traced.load start width) m (m.load start width)
      m :=
  .load ⟨h, by simp⟩

theorem does_store {start : Nat} {bs : Bytes}
    (hregion : Set.Ico start (start + bs.length) ⊆ region capacity)
    (hstores : Set.Ico start (start + bs.length) ⊆ stores) :
    Does (Access.Within (region capacity) stores) (Traced.store start bs) m ()
      (m.store start bs) :=
  .store ⟨hregion, fun _ => hstores⟩

/-- A number that is stored in a field of the control block. -/
theorem does_storeNat {start width n : Nat} (hfield : start + width ≤ controlSize)
    (hstores : Set.Ico start (start + width) ⊆ stores) :
    Does (Access.Within (region capacity) stores) (Traced.store start (Bytes.ofNat width n)) m ()
      (m.storeNat start width n) := by
  have hwidth : (Bytes.ofNat width n).length = width := Bytes.length_ofNat ..
  refine does_store ?_ ?_
  · rw [hwidth]
    exact field_subset_region hfield
  · rw [hwidth]
    exact hstores

/-- A cursor that is loaded from its field of the control block. -/
theorem does_loadCursor {start : Nat} (hfield : start + 8 ≤ controlSize) :
    Does (Access.Within (region capacity) stores) (Traced.loadCursor start) m
      (UInt64.ofNat (m.loadNat start 8)) m :=
  (does_load (field_subset_region hfield)).map fun bs => UInt64.ofNat (Bytes.toNat bs)

theorem does_loadWriteCursor :
    Does (Access.Within (region capacity) stores) (Traced.loadCursor writeCursorAt) m
      (writeCursor m) m := does_loadCursor (by decide)

theorem does_loadReadCursor :
    Does (Access.Within (region capacity) stores) (Traced.loadCursor readCursorAt) m
      (readCursor m) m := does_loadCursor (by decide)

theorem does_copyIn {bs : Bytes} (hfits : bs.length ≤ capacity) (hcircle : circle capacity ⊆ stores)
    (cursor : UInt64) :
    Does (Access.Within (region capacity) stores) (Traced.copyIn capacity cursor bs) m ()
      (copyIn capacity m cursor bs) := by
  obtain ⟨hfront, hrest⟩ := parts_subset_circle hfits cursor
  simp only [copyIn, List.splitAt_eq]
  exact (does_store (hfront.trans circle_subset_region) (hfront.trans hcircle)).bind
    (does_store (hrest.trans circle_subset_region) (hrest.trans hcircle))

theorem does_copyOut {length : Nat} (hfits : length ≤ capacity) (cursor : UInt64) :
    Does (Access.Within (region capacity) stores) (Traced.copyOut capacity cursor length) m
      (copyOut capacity m cursor length) m :=
  (does_load ((front_subset_circle (Nat.min_le_right ..)).trans circle_subset_region)).bind
    ((does_load ((rest_subset_circle (Nat.le_trans (Nat.sub_le ..) hfits)).trans
      circle_subset_region)).bind (.pure _))

theorem does_write (message : Bytes) :
    Does (Access.Within (region capacity) (writeCursorField ∪ circle capacity))
      (Traced.write capacity message) m (Writing.run capacity message .start m).1
      (Writing.run capacity message .start m).2 := by
  rw [Writing.run_start, Traced.write]
  by_cases hlong : capacity / 2 < message.length
  · rw [if_pos hlong, if_pos hlong]
    exact .pure _
  · rw [if_neg hlong, if_neg hlong]
    refine does_loadWriteCursor.bind (does_loadReadCursor.bind ?_)
    by_cases hfull : capacity - unreadBetween capacity (readCursor m) (writeCursor m)
        < footprint message
    · simp only [if_pos hfull]
      exact .pure _
    · simp only [if_neg hfull]
      -- there is room for the message and its length, so both copies fit in the circle
      have hfits : message.length + lengthSize ≤ capacity :=
        Nat.le_trans (Nat.not_lt.1 hfull) (Nat.sub_le ..)
      refine (does_copyIn ?_ Set.subset_union_right _).bind
        ((does_copyIn ?_ Set.subset_union_right _).bind
          ((does_storeNat (by decide) Set.subset_union_left).bind (.pure _)))
      · rw [Bytes.length_ofNat]
        omega
      · omega

/-- What `peek` comes to, as its checks have it. -/
theorem peek_eq (capacity : Nat) (m : Memory) :
    peek ⟨capacity, m⟩ = (admitUnread capacity (readCursor m) (writeCursor m)).bind
      (admitLength capacity m (readCursor m)) := rfl

theorem does_peek :
    Does (Access.Within (region capacity) stores) (Traced.peek capacity) m
      (peek ⟨capacity, m⟩) m := by
  rw [peek_eq]
  refine does_loadReadCursor.bind (does_loadWriteCursor.bind ?_)
  cases hunread : admitUnread capacity (readCursor m) (writeCursor m) with
  | error e => exact .pure _
  | ok unread =>
      obtain ⟨hfour, hle⟩ := admitUnread_le hunread
      refine (does_copyOut (Nat.le_trans hfour hle) _).bind ?_
      simp only [Except.bind, admitLength]
      split
      · exact .pure _
      · exact .pure _

theorem does_consume {length : Nat} (hfits : length ≤ capacity) :
    Does (Access.Within (region capacity) readCursorField) (Traced.consume capacity length) m
      (copyOut capacity m (readCursor m + UInt64.ofNat lengthSize) length)
      (setReadCursor m (readCursor m + UInt64.ofNat (lengthSize + length))) := by
  refine does_loadReadCursor.bind ((does_copyOut hfits _).bind ?_)
  rw [length_copyOut]
  exact (does_storeNat (by decide) (Set.Subset.refl _)).bind (.pure _)

theorem does_read (room : Option Nat) :
    Does (Access.Within (region capacity) readCursorField) (Traced.read capacity room) m
      (Reading.run capacity room .start m).1 (Reading.run capacity room .start m).2 := by
  rw [Reading.run_start]
  refine does_peek.bind ?_
  rw [peek_eq]
  cases hunread : admitUnread capacity (readCursor m) (writeCursor m) with
  | error e => exact .pure _
  | ok unread =>
      obtain ⟨hfour, hle⟩ := admitUnread_le hunread
      simp only [Except.bind]
      cases hlength : admitLength capacity m (readCursor m) unread with
      | error e => exact .pure _
      | ok length =>
          have hfits := length_of_admitLength hlength
          by_cases hroom : (room.any fun n => decide (n < length)) = true
          · simp only [if_pos hroom]
            exact .pure _
          · simp only [if_neg hroom, length_copyOut]
            exact (does_consume (by omega)).map Except.ok

theorem does_claim {start : Nat} (hfield : start + 4 ≤ controlSize) (process : Nat) :
    Does (Access.Within (region capacity) (Set.Ico start (start + 4)))
      (Traced.claim start process) m (.ok .done) (m.storeNat start 4 process) :=
  (does_storeNat hfield (Set.Subset.refl _)).bind (.pure _)

theorem does_traced (op : Op) :
    Does (Access.Within (region capacity) (op.stores capacity)) (op.traced capacity) m
      (op.onMemory capacity m).1 (op.onMemory capacity m).2 := by
  cases op with
  | write message => exact (does_write message).map (Except.map fun _ => Reply.done)
  | readInto room => exact (does_read (some room)).map (Except.map Reply.message)
  | read => exact (does_read none).map (Except.map Reply.message)
  | peek =>
      simp only [Op.onMemory, perform]
      exact does_peek.map (Except.map Reply.length)
  | claimWriter process => exact does_claim (by decide) process
  | claimReader process => exact does_claim (by decide) process

/-- Whatever the memory holds, the loads and stores of an operation come to what the operation
comes to. All of them lie in the control block and the circle, and the stores lie in the part of
them that is the operation's own. -/
theorem traced_stays_within (op : Op) (capacity : Nat) (m : Memory) :
    let run := (op.traced capacity).run ⟨m, []⟩
    (run.1, run.2.memory) = op.onMemory capacity m ∧
      ∀ a ∈ run.2.accesses, a.Within (region capacity) (op.stores capacity) := by
  obtain ⟨accesses, hrun, hwithin⟩ := does_traced op []
  intro run
  have hend : run = ((op.onMemory capacity m).1, ⟨(op.onMemory capacity m).2, accesses⟩) := hrun
  rw [hend]
  exact ⟨rfl, hwithin⟩

/-- A message that lies across the end of the circle is copied in two parts. -/
example :
    let m := setReadCursor (setWriteCursor (.zeroed 201) 2) 2
    (((Op.write [1, 2, 3, 4]).traced 9).run ⟨m, []⟩).2.accesses =
      [⟨0, 8, false⟩, ⟨64, 8, false⟩, ⟨194, 4, true⟩, ⟨192, 0, true⟩, ⟨198, 3, true⟩,
        ⟨192, 1, true⟩, ⟨0, 8, true⟩] := by
  cbv

end Telemetry.Ring
