import Telemetry.Compression.RunLength
import Telemetry.Compression.Dictionary

/-!
# Choosing a codec

`pack` tries both codecs on an input and keeps the smaller form where it is below nine tenths of
the input, and the input itself otherwise; `unpack` undoes it. Nothing packed is ever longer than
its input.
-/

namespace Telemetry.Compression

inductive Codec where
  | stored
  | runLength
  | dictionary
  deriving DecidableEq, Repr, Inhabited

inductive CompressionError where
  | unknownCodec (id : UInt8)
  deriving DecidableEq, Repr, Inhabited

def CompressionError.message : CompressionError → String
  | .unknownCodec id => s!"Unknown codec id: {id.toNat}"

namespace Codec

def id : Codec → UInt8
  | .stored => 0
  | .runLength => 1
  | .dictionary => 2

def ofId (id : UInt8) : Except CompressionError Codec :=
  if id = 0 then .ok .stored
  else if id = 1 then .ok .runLength
  else if id = 2 then .ok .dictionary
  else .error (.unknownCodec id)

def name : Codec → String
  | .stored => "None"
  | .runLength => "RunLength"
  | .dictionary => "Dictionary"

@[simp] theorem ofId_id (c : Codec) : ofId c.id = .ok c := by cases c <;> rfl

def compress : Codec → Bytes → Bytes
  | .stored, bs => bs
  | .runLength, bs => RunLength.compress bs
  | .dictionary, bs => Dictionary.compress bs

def decompress : Codec → Bytes → Bytes
  | .stored, bs => bs
  | .runLength, bs => RunLength.decompress bs
  | .dictionary, bs => Dictionary.decompress bs

end Codec

/-- A payload and how it is stored. -/
structure Packed where
  codec : Codec
  bytes : Bytes
  deriving DecidableEq, Repr, Inhabited

/-- Shorter inputs are stored as they are. -/
def minPacked : Nat := 64

/-- Whether `size` bytes are below nine tenths of `plain`. -/
def paysOff (size plain : Nat) : Bool := decide (size * 10 < plain * 9)

/-- Stores an input in the smaller of its compressed forms if that pays off; of two forms of one
size the dictionary's is taken. -/
def pack (bs : Bytes) : Packed :=
  let size := bs.length
  if size < minPacked then ⟨.stored, bs⟩
  else
    let byRuns := RunLength.compress bs
    let byCopies := Dictionary.compress bs
    let runsSize := byRuns.length
    let copiesSize := byCopies.length
    if runsSize < copiesSize && paysOff runsSize size then ⟨.runLength, byRuns⟩
    else if paysOff copiesSize size then ⟨.dictionary, byCopies⟩
    else ⟨.stored, bs⟩

def Packed.unpack (p : Packed) : Bytes := p.codec.decompress p.bytes

def decompressWithId (bs : Bytes) (id : UInt8) : Except CompressionError Bytes := do
  return (← Codec.ofId id).decompress bs

/-! ## Measuring -/

structure Gain where
  plainSize : Nat
  packedSize : Nat
  codec : Codec
  deriving DecidableEq, Repr, Inhabited

def Gain.measure (bs : Bytes) : Gain :=
  let packed := pack bs
  ⟨bs.length, packed.bytes.length, packed.codec⟩

/-- How many times smaller the packed form is; 1 where one of the sizes is zero. -/
def Gain.ratio (g : Gain) : Float :=
  if g.plainSize = 0 ∨ g.packedSize = 0 then 1.0
  else g.plainSize.toFloat / g.packedSize.toFloat

def Gain.savings (g : Gain) : Nat := g.plainSize - g.packedSize

end Telemetry.Compression
