import Telemetry.DataType
import Telemetry.Frame.Error

/-!
# Frame headers

A frame opens with a header of 20 bytes, and each variable in its body with one of 15. Numbers are
packed least significant byte first and without gaps:

    frame     version 1 · kind 1 · variables 2 · total size 4 · time 8 · sequence 4
    variable  name length 2 · type 1 · value length 4 · time 8

Parsing checks only what it has to know to name the fields: that there are enough bytes, and that
the kind or the type is a known one.
-/

namespace Telemetry.Frame

/-- The bytes of a field: `width` bytes from position `start`. -/
def field (start width : Nat) (bs : Bytes) : Bytes := (bs.drop start).take width

/-! ## Kinds of frame -/

/-- What the body of a frame holds. -/
inductive PayloadKind where
  | single
  | batch
  /-- A codec's name and a packed body. -/
  | compressed
  deriving DecidableEq, Repr, Inhabited

namespace PayloadKind

def code : PayloadKind → UInt8
  | single => 0
  | batch => 1
  | compressed => 2

def ofCode (code : UInt8) : Except FrameError PayloadKind :=
  if code = 0 then .ok single
  else if code = 1 then .ok batch
  else if code = 2 then .ok compressed
  else .error (.unknownPayloadKind code)

@[simp] theorem ofCode_code (k : PayloadKind) : ofCode k.code = .ok k := by cases k <;> rfl

def name : PayloadKind → String
  | single => "Single"
  | batch => "Batch"
  | compressed => "Compressed"

end PayloadKind

/-! ## The header of a frame -/

structure Header where
  version : UInt8
  kind : PayloadKind
  variableCount : UInt16
  /-- The size of the whole frame. -/
  totalSize : UInt32
  /-- When the frame was built, in microseconds since 1970. -/
  timestamp : UInt64
  /-- The number of the frame in its builder's count. -/
  sequence : UInt32
  deriving DecidableEq, Repr, Inhabited

namespace Header

def size : Nat := 20

def currentVersion : UInt8 := 1

def encode (h : Header) : Bytes :=
  h.version :: h.kind.code :: (Bytes.ofNat 2 h.variableCount.toNat ++
    Bytes.ofNat 4 h.totalSize.toNat ++ Bytes.ofNat 8 h.timestamp.toNat ++
    Bytes.ofNat 4 h.sequence.toNat)

@[simp] theorem length_encode (h : Header) : h.encode.length = size := by simp [encode, size]

def ofFields (raw : Bytes) : Except FrameError Header := do
  let kind ← PayloadKind.ofCode (raw.getD 1 0)
  return {
    version := raw.getD 0 0
    kind
    variableCount := UInt16.ofNat (Bytes.toNat (field 2 2 raw))
    totalSize := UInt32.ofNat (Bytes.toNat (field 4 4 raw))
    timestamp := UInt64.ofNat (Bytes.toNat (field 8 8 raw))
    sequence := UInt32.ofNat (Bytes.toNat (field 16 4 raw)) }

def parse (bs : Bytes) : Except FrameError Header :=
  match bs.split? size with
  | none => .error (.headerTooShort bs.length)
  | some (raw, _) => ofFields raw

/-- Reads a header and checks that it is one of the version in use and covers itself. -/
def decode (bs : Bytes) : Except FrameError Header := do
  let h ← parse bs
  if h.version ≠ currentVersion then throw (.unsupportedVersion h.version)
  if h.totalSize.toNat < size then throw (.invalidTotalSize h.totalSize)
  return h

end Header

/-! ## The header of a variable -/

structure VariableHeader where
  nameLength : UInt16
  dataType : DataType
  valueLength : UInt32
  timestamp : UInt64
  deriving DecidableEq, Repr, Inhabited

namespace VariableHeader

def size : Nat := 15

def encode (h : VariableHeader) : Bytes :=
  Bytes.ofNat 2 h.nameLength.toNat ++ h.dataType.tag :: (Bytes.ofNat 4 h.valueLength.toNat ++
    Bytes.ofNat 8 h.timestamp.toNat)

@[simp] theorem length_encode (h : VariableHeader) : h.encode.length = size := by
  simp [encode, size]

def ofFields (raw : Bytes) : Except FrameError VariableHeader :=
  let tag := raw.getD 2 0
  match DataType.ofTag? tag with
  | none => .error (.unknownDataType tag)
  | some dataType => .ok {
      nameLength := UInt16.ofNat (Bytes.toNat (field 0 2 raw))
      dataType
      valueLength := UInt32.ofNat (Bytes.toNat (field 3 4 raw))
      timestamp := UInt64.ofNat (Bytes.toNat (field 7 8 raw)) }

def parse (bs : Bytes) : Except FrameError VariableHeader :=
  match bs.split? size with
  | none => .error (.truncated size bs.length)
  | some (raw, _) => ofFields raw

end VariableHeader

end Telemetry.Frame
