import Telemetry.Memory
import Telemetry.Ring.Error

/-!
# Rings

A ring carries messages from one writer to one reader through a region of memory. The region opens
with a control block of 192 bytes, and the rest is a circle of `capacity` bytes:

    write cursor 8 at 0 · read cursor 8 at 64 · capacity 8 at 128
    writer 4 at 136 · reader 4 at 140

Cursors count bytes and never turn back; a cursor modulo the capacity is a place in the circle. The
bytes between the read cursor and the write cursor are unread. A message is a length of four bytes
and the bytes themselves. Copies in and out of the circle are made in two parts, the second one
from the start of the circle.
-/

namespace Telemetry

/-- A ring laid over a region of memory, with the capacity its opener agreed on. -/
structure Ring where
  capacity : Nat
  memory : Memory
  deriving Inhabited

namespace Ring

/-! ## Layout -/

def controlSize : Nat := 192

/-- The size of the length in front of a message. -/
def lengthSize : Nat := 4

def minCapacity : Nat := 8

def maxCapacity : Nat := UInt32.size - 1

def writeCursorAt : Nat := 0

def readCursorAt : Nat := 64

def capacityAt : Nat := 128

def writerAt : Nat := 136

def readerAt : Nat := 140

/-- How many bytes were ever written to the ring in a region. -/
def writeCursor (m : Memory) : UInt64 := UInt64.ofNat (m.loadNat writeCursorAt 8)

/-- How many bytes were ever read from the ring in a region. -/
def readCursor (m : Memory) : UInt64 := UInt64.ofNat (m.loadNat readCursorAt 8)

def setWriteCursor (m : Memory) (cursor : UInt64) : Memory :=
  m.storeNat writeCursorAt 8 cursor.toNat

def setReadCursor (m : Memory) (cursor : UInt64) : Memory :=
  m.storeNat readCursorAt 8 cursor.toNat

@[simp] theorem readCursor_setReadCursor (m : Memory) (cursor : UInt64) :
    readCursor (setReadCursor m cursor) = cursor := by
  have h := cursor.toNat_lt
  apply UInt64.toNat_inj.1
  have hp : Nat.pow 256 8 = 18446744073709551616 := rfl
  simp only [readCursor, setReadCursor, Memory.loadNat_storeNat, UInt64.toNat_ofNat', hp]
  omega

@[simp] theorem writeCursor_setReadCursor (m : Memory) (cursor : UInt64) :
    writeCursor (setReadCursor m cursor) = writeCursor m := by
  simp only [writeCursor, setReadCursor]
  rw [Memory.loadNat_storeNat_of_disjoint _ _ _ _ _ _ (by simp [writeCursorAt, readCursorAt])]

/-- The capacity that a region records; zero until a ring is made there. -/
def recordedCapacity (m : Memory) : Nat := m.loadNat capacityAt 8

def resetCursors (m : Memory) : Memory :=
  (((m.storeNat writeCursorAt 8 0).storeNat readCursorAt 8 0).storeNat writerAt 4 0).storeNat
    readerAt 4 0

/-- Records a capacity, which makes a ring of the region. -/
def publishCapacity (m : Memory) (capacity : Nat) : Memory := m.storeNat capacityAt 8 capacity

def checkCapacity (capacity : Nat) : Except RingError Unit :=
  if minCapacity ≤ capacity ∧ capacity ≤ maxCapacity then .ok ()
  else .error (.invalidCapacity capacity)

/-- A new ring in memory of its own. -/
def create (capacity : Nat) : Except RingError Ring := do
  checkCapacity capacity
  return ⟨capacity,
    publishCapacity (resetCursors (Memory.zeroed (controlSize + capacity))) capacity⟩

/-! ## The circle -/

/-- The place in the circle that a cursor stands for. -/
def place (capacity : Nat) (cursor : UInt64) : Nat := cursor.toNat % capacity

def copyIn (capacity : Nat) (m : Memory) (cursor : UInt64) (bs : Bytes) : Memory :=
  let start := place capacity cursor
  let (front, rest) := bs.splitAt (capacity - start)
  (m.store (controlSize + start) front).store controlSize rest

def copyOut (capacity : Nat) (m : Memory) (cursor : UInt64) (length : Nat) : Bytes :=
  let start := place capacity cursor
  let front := min length (capacity - start)
  m.load (controlSize + start) front ++ m.load controlSize (length - front)

@[simp] theorem length_copyOut (capacity : Nat) (m : Memory) (cursor : UInt64) (length : Nat) :
    (copyOut capacity m cursor length).length = length := by
  simp only [copyOut, List.length_append, Memory.length_load]
  omega

/-- The bytes between two cursors, at most the whole circle. -/
def unreadBetween (capacity : Nat) (read write : UInt64) : Nat :=
  min (write - read).toNat capacity

/-! ## What a ring says of itself -/

/-- The bytes that are unread, lengths included. -/
def availableRead (r : Ring) : Nat :=
  unreadBetween r.capacity (readCursor r.memory) (writeCursor r.memory)

def availableWrite (r : Ring) : Nat := r.capacity - r.availableRead

def isEmpty (r : Ring) : Bool := r.availableRead == 0

/-- The number of the process that writes; zero for none. -/
def writer (r : Ring) : Nat := r.memory.loadNat writerAt 4

def reader (r : Ring) : Nat := r.memory.loadNat readerAt 4

/-- Records the process that writes. -/
def claimWriter (r : Ring) (process : Nat) : Ring :=
  { r with memory := r.memory.storeNat writerAt 4 process }

/-- Records the process that reads. -/
def claimReader (r : Ring) (process : Nat) : Ring :=
  { r with memory := r.memory.storeNat readerAt 4 process }

end Ring

end Telemetry
