import Telemetry.Compression.Packing

/-!
# Frame errors

Why a frame cannot be built or read, and how each cause is worded.
-/

namespace Telemetry.Frame

inductive FrameError where
  | headerTooShort (length : Nat)
  | unsupportedVersion (version : UInt8)
  /-- A declared size that does not cover the header. -/
  | invalidTotalSize (size : UInt32)
  | unknownPayloadKind (code : UInt8)
  | unknownDataType (tag : UInt8)
  /-- Fewer bytes than are declared. -/
  | truncated (expected actual : Nat)
  | invalidName
  /-- Another number of variables than declared. -/
  | variableCountMismatch (declared : UInt16) (actual : Nat)
  /-- A compressed frame that has to be restored first. -/
  | compressedFrame
  /-- A compressed frame that ends before its codec is named. -/
  | missingCodecId
  | compression (cause : Compression.CompressionError)
  | nameTooLong (length : Nat)
  | valueTooLarge (length : Nat)
  | tooManyVariables (count : Nat)
  | frameTooLarge (size : Nat)
  deriving DecidableEq, Repr, Inhabited

def FrameError.message : FrameError → String
  | .headerTooShort n => s!"Frame header needs 20 bytes, got {n}"
  | .unsupportedVersion v => s!"Unsupported protocol version {v.toNat}"
  | .invalidTotalSize n => s!"Declared frame size {n.toNat} is smaller than the header"
  | .unknownPayloadKind c => s!"Unknown payload type {c.toNat}"
  | .unknownDataType t => s!"Unknown data type tag {t.toNat}"
  | .truncated expected actual => s!"Truncated frame: expected {expected} bytes, got {actual}"
  | .invalidName => "Variable name is not valid UTF-8"
  | .variableCountMismatch declared actual =>
    s!"Header declares {declared.toNat} variables, body holds {actual}"
  | .compressedFrame => "Frame is compressed"
  | .missingCodecId => "Compressed frame is missing its codec id"
  | .compression cause => s!"Compression error: {cause.message}"
  | .nameTooLong n => s!"Variable name too long: {n} bytes"
  | .valueTooLarge n => s!"Variable value too large: {n} bytes"
  | .tooManyVariables n => s!"Too many variables for one frame: {n}"
  | .frameTooLarge n => s!"Frame too large: {n} bytes"

end Telemetry.Frame
