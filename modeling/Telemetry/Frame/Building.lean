import Telemetry.Variable
import Telemetry.Frame.Header

/-!
# Building frames

A builder numbers the frames it makes, wrapping at 32 bits; a frame that cannot be built takes no
number. A builder may pack the bodies of its frames: a frame of at least 128 bytes with one
variable, or of at least 256 bytes with a batch, is packed where that pays off, and its body is
then the codec's name and the packed bytes.
-/

namespace Telemetry.Frame

structure Raw where
  header : Header
  body : Bytes
  deriving DecidableEq, Repr, Inhabited

def Raw.bytes (f : Raw) : Bytes := f.header.encode ++ f.body

/-! ## Variables in a frame -/

def encodedLength (v : Variable) : Nat :=
  VariableHeader.size + v.name.utf8ByteSize + v.value.length

/-- The header of a variable, if its name and its value are not too long for one. -/
def variableHeader (v : Variable) : Except FrameError VariableHeader :=
  if v.name.utf8ByteSize ≥ UInt16.size then .error (.nameTooLong v.name.utf8ByteSize)
  else if v.value.length ≥ UInt32.size then .error (.valueTooLarge v.value.length)
  else .ok ⟨UInt16.ofNat v.name.utf8ByteSize, v.dataType, UInt32.ofNat v.value.length, v.timestamp⟩

def encodeVariable (h : VariableHeader) (v : Variable) : Bytes :=
  h.encode ++ (Bytes.ofText v.name ++ v.value)

/-- The body that holds variables, and the size of their frame. -/
def encodeBody (vs : List Variable) : Except FrameError (Bytes × Nat) := do
  let headers ← vs.mapM variableHeader
  let total := vs.foldl (fun n v => n + encodedLength v) Header.size
  if total ≥ UInt32.size then throw (.frameTooLarge total)
  return ((headers.zip vs).flatMap fun (h, v) => encodeVariable h v, total)

/-! ## Packing -/

def packingThreshold : PayloadKind → Nat
  | .single => 128
  | _ => 256

/-- Packs the body of a frame if the frame is large enough and the body gets smaller; a batch has
to get smaller than nine tenths. -/
def Raw.pack (f : Raw) : Raw :=
  let size := f.header.totalSize.toNat
  if size < packingThreshold f.header.kind then f
  else
    let packed := Compression.pack f.body
    let packedSize := packed.bytes.length
    if packed.codec = .stored then f
    else if f.header.kind = .batch && !Compression.paysOff packedSize f.body.length then f
    else
      { header := { f.header with
          kind := .compressed, totalSize := UInt32.ofNat (Header.size + 1 + packedSize) }
        body := packed.codec.id :: packed.bytes }

/-! ## The builder -/

structure Builder where
  sequence : UInt32
  /-- Whether the bodies of frames are packed where that pays off. -/
  packing : Bool
  deriving DecidableEq, Repr, Inhabited

namespace Builder

def plain (sequence : UInt32) : Builder := ⟨sequence, false⟩

def layOut (b : Builder) (kind : PayloadKind) (vs : List Variable) (now : UInt64) :
    Except FrameError Raw := do
  let count := vs.length
  if count ≥ UInt16.size then throw (.tooManyVariables count)
  let (body, total) ← encodeBody vs
  return {
    header := {
      version := Header.currentVersion
      kind
      variableCount := UInt16.ofNat count
      totalSize := UInt32.ofNat total
      timestamp := now
      sequence := b.sequence }
    body }

/-- Makes a frame of a kind. A number is taken only after everything was checked. -/
def build (b : Builder) (kind : PayloadKind) (vs : List Variable) (now : UInt64) :
    Except FrameError Bytes × Builder :=
  match b.layOut kind vs now with
  | .error e => (.error e, b)
  | .ok raw =>
    let frame := if b.packing then raw.pack else raw
    (.ok frame.bytes, { b with sequence := b.sequence + 1 })

def buildSingle (b : Builder) (v : Variable) (now : UInt64) : Except FrameError Bytes × Builder :=
  b.build .single [v] now

def buildBatch (b : Builder) (vs : List Variable) (now : UInt64) :
    Except FrameError Bytes × Builder :=
  b.build .batch vs now

end Builder

end Telemetry.Frame
