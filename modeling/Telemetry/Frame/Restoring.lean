import Telemetry.Frame.Building
import Telemetry.Frame.Decoding

/-!
# Restoring compressed frames

A compressed frame is unpacked into a batch. The count of variables and the size are taken anew
from the unpacked body; version, time and number are kept. Any other frame comes back as it is.
-/

namespace Telemetry.Frame

/-- A frame that can be decoded, and whether it came in that way. -/
structure Restored where
  bytes : Bytes
  unchanged : Bool
  deriving DecidableEq, Repr, Inhabited

/-- The batch that holds an unpacked body, under what a header says of it. -/
def rebuild (header : Header) (body : Bytes) : Except FrameError Raw := do
  let count := (← parseBody body).length
  if count ≥ UInt16.size then throw (.tooManyVariables count)
  let size := Header.size + body.length
  if size ≥ UInt32.size then throw (.frameTooLarge size)
  return {
    header := { header with
      kind := .batch, variableCount := UInt16.ofNat count, totalSize := UInt32.ofNat size }
    body }

def restore (bs : Bytes) : Except FrameError Restored := do
  let header ← Header.decode bs
  if header.kind ≠ .compressed then return ⟨bs, true⟩
  let total := header.totalSize.toNat
  match bs.split? total with
  | none => throw (.truncated total bs.length)
  | some (front, _) =>
    match front.drop Header.size with
    | [] => throw .missingCodecId
    | id :: packed =>
      match Compression.decompressWithId packed id with
      | .error e => throw (.compression e)
      | .ok body => return ⟨(← rebuild header body).bytes, false⟩

end Telemetry.Frame
