import Telemetry.Variable
import Telemetry.Frame.Header

/-!
# Reading frames

A frame is read whole or not at all. Its body is variable after variable, each a header, a name
and a value, up to the size that the frame declares; bytes after that are ignored. The number of
variables has to be the declared one.
-/

namespace Telemetry.Frame

structure Decoded where
  header : Header
  entries : List Variable
  deriving DecidableEq, Repr, Inhabited

/-- Reads the variable at the front of a body, and gives the rest of the body too. -/
def readVariable (bs : Bytes) : Except FrameError (Variable × Bytes) :=
  match VariableHeader.parse bs with
  | .error e => .error e
  | .ok h =>
    let needed := VariableHeader.size + h.nameLength.toNat + h.valueLength.toNat
    match bs.split? needed with
    | none => .error (.truncated needed bs.length)
    | some (front, rest) =>
      let (name, value) := (front.drop VariableHeader.size).splitAt h.nameLength.toNat
      match Bytes.toText? name with
      | none => .error .invalidName
      | some name => .ok (⟨name, h.dataType, value, h.timestamp⟩, rest)

theorem length_lt_of_readVariable {bs rest : Bytes} {v : Variable}
    (h : readVariable bs = .ok (v, rest)) : rest.length < bs.length := by
  simp only [readVariable] at h
  split at h
  · cases h
  · split at h
    · cases h
    · rename_i needed front rest' heq
      split at h
      · cases h
      · simp only [Except.ok.injEq, Prod.mk.injEq] at h
        obtain ⟨-, rfl⟩ := h
        obtain ⟨hl, rfl⟩ := Bytes.split?_eq_some_iff.1 heq
        simp only [VariableHeader.size] at hl
        simp only [List.length_append]
        omega

/-- Reads the variables of a body after those already read. -/
def readVariables (done : Array Variable) (bs : Bytes) : Except FrameError (Array Variable) :=
  if bs.isEmpty then .ok done
  else
    match _h : readVariable bs with
    | .error e => .error e
    | .ok (v, rest) => readVariables (done.push v) rest
termination_by bs.length
decreasing_by exact length_lt_of_readVariable _h

def parseBody (body : Bytes) : Except FrameError (List Variable) :=
  return (← readVariables #[] body).toList

/-- Reads a frame that is not compressed. -/
def decode (bs : Bytes) : Except FrameError Decoded := do
  let header ← Header.decode bs
  if header.kind = .compressed then throw .compressedFrame
  let total := header.totalSize.toNat
  match bs.split? total with
  | none => throw (.truncated total bs.length)
  | some (front, _) =>
    let entries ← parseBody (front.drop Header.size)
    let count := entries.length
    if count ≠ header.variableCount.toNat then
      throw (.variableCountMismatch header.variableCount count)
    return ⟨header, entries⟩

end Telemetry.Frame
