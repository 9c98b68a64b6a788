import Telemetry.Bytes

/-!
# Run-length compression

A run of 3 to 255 equal bytes is written `FF n v`. Every other byte is written as itself, except
that a lone `FF` is written `FF 00`; a count is never zero, so the byte after a marker tells the
two forms apart.

The compressor cuts the input into maximal runs (`runs`) and writes each run on its own
(`encodeRun`). The decompressor is a machine fed one byte at a time (`Decoder.feed`), so that what
it has put out after a part of the input is a part of what it puts out in the end.
-/

namespace Telemetry.Compression.RunLength

/-- The byte that opens a run or an escaped literal. -/
def marker : UInt8 := 0xFF

/-- The shortest run that is worth a descriptor. -/
def minRun : Nat := 3

/-- The longest run that one descriptor can name. -/
def maxRun : Nat := 255

/-! ## Compressing -/

/-- The maximal runs of an input: each byte value with the number of its repetitions. -/
def runs (bs : Bytes) : List (UInt8 × Nat) :=
  bs.foldr (fun b acc => match acc with
    | (v, n) :: rest => if b = v then (v, n + 1) :: rest else (b, 1) :: acc
    | [] => [(b, 1)]) []

def encodeLiteral (v : UInt8) : Bytes :=
  if v = marker then [marker, 0] else [v]

/-- The last piece of a run, shorter than `maxRun`: a descriptor if it is long enough. -/
def encodeTail (v : UInt8) (n : Nat) : Bytes :=
  if minRun ≤ n then [marker, UInt8.ofNat n, v] else (List.replicate n (encodeLiteral v)).flatten

/-- A run of any length: full descriptors first, then what is left. -/
def encodeRun (v : UInt8) (n : Nat) : Bytes :=
  (List.replicate (n / maxRun) [marker, UInt8.ofNat maxRun, v]).flatten ++
    encodeTail v (n % maxRun)

def compress (bs : Bytes) : Bytes :=
  (runs bs).flatMap fun (v, n) => encodeRun v n

/-! ## Decompressing -/

inductive Position where
  | token
  | marked
  | counted (count : UInt8)
  deriving DecidableEq, Repr, Inhabited

/-- The decompressor: what it has put out so far, and where it stands. -/
structure Decoder where
  output : Array UInt8
  position : Position

def Decoder.start : Decoder := ⟨#[], .token⟩

def Decoder.feed (d : Decoder) (b : UInt8) : Decoder :=
  match d.position with
  | .token =>
    if b = marker then { d with position := .marked }
    else { d with output := d.output.push b }
  | .marked => if b = 0 then ⟨d.output.push marker, .token⟩ else { d with position := .counted b }
  | .counted n => ⟨d.output ++ Array.replicate n.toNat b, .token⟩

/-- The bytes that a compressed form stands for; a descriptor cut short at the end says nothing. -/
def decompress (bs : Bytes) : Bytes :=
  (bs.foldl Decoder.feed Decoder.start).output.toList

/-! ## Repetitiveness -/

def repetitions (bs : Bytes) : Nat :=
  (bs.zip bs.tail).countP fun (a, b) => a == b

/-- Whether an input looks repetitive: it has 64 bytes or more, and more than 20 percent of its
first 100 bytes, in whole percents, repeat the byte before. -/
def isRepetitive (bs : Bytes) : Bool :=
  let sample := bs.take 100
  decide (64 ≤ bs.length) && decide (repetitions sample * 100 / sample.length > 20)

end Telemetry.Compression.RunLength
