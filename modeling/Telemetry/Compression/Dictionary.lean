import Telemetry.Bytes

/-!
# Sliding-window compression

Three kinds of token: a byte below `80` stands for itself; `80 00 v` stands for the byte `v`, and
is used for the others; `1000oooo oooooooo 0000llll` copies `l + 3` bytes from `o` bytes back,
with `o` from 1 to 4095. A copy may reach into the bytes that it makes itself.

The search runs over a cursor: the bytes behind it, nearest first, and the bytes ahead. The
candidate at each offset is the one before it with one more byte from behind in front, so the
search is a recursion on the bytes behind. The nearest of the longest matches wins.
-/

namespace Telemetry.Compression.Dictionary

/-- The farthest that a copy reaches back. -/
def window : Nat := 4095

/-- The shortest match that is worth a copy. -/
def minMatch : Nat := 3

/-- The longest match that one copy can name. -/
def maxMatch : Nat := 18

/-- The bit that tells a three-byte token from a byte that stands for itself. -/
def flag : UInt8 := 0x80

/-- A stretch of earlier bytes: how far back it starts and how long it is. -/
structure Match where
  offset : Nat
  length : Nat
  deriving DecidableEq, Repr, Inhabited

/-! ## Searching -/

/-- How many of the first `limit` bytes two inputs share. -/
def sharedLength : Nat → Bytes → Bytes → Nat
  | limit + 1, a :: as, b :: bs => if a = b then sharedLength limit as bs + 1 else 0
  | _, _, _ => 0

def improves (length : Nat) (best : Option Match) : Bool :=
  decide (minMatch ≤ length) && best.all fun m => decide (m.length < length)

/-- Tries the `reach` nearest offsets after `offset`, going back from a candidate that starts
`offset` bytes behind the cursor, and stops at a match of full length. -/
def search (ahead : Bytes) (limit : Nat) :
    (reach : Nat) → (behind : Bytes) → (candidate : Bytes) → (offset : Nat) → Option Match →
      Option Match
  | reach + 1, b :: behind, candidate, offset, best =>
    let candidate := b :: candidate
    let offset := offset + 1
    let length := sharedLength limit candidate ahead
    if improves length best then
      if length = limit then some ⟨offset, length⟩
      else search ahead limit reach behind candidate offset (some ⟨offset, length⟩)
    else search ahead limit reach behind candidate offset best
  | _, _, _, _, best => best

/-- The longest match for the bytes ahead, the nearest one of them, given the bytes behind,
nearest first. -/
def longestMatch (behind ahead : Bytes) : Option Match :=
  let limit := (ahead.take maxMatch).length
  if limit < minMatch then none else search ahead limit window behind ahead 0 none

/-- The longest match for what follows the first `pos` bytes of an input. -/
def matchAt (bs : Bytes) (pos : Nat) : Option Match :=
  let (behind, ahead) := bs.splitAt pos
  longestMatch behind.reverse ahead

/-! ## Tokens -/

inductive Token where
  | literal (v : UInt8)
  | copy (m : Match)
  deriving DecidableEq, Repr, Inhabited

def Token.encode : Token → Bytes
  | .literal v => if v &&& flag = 0 then [v] else [flag, 0, v]
  | .copy m =>
    [flag ||| (UInt8.ofNat (m.offset / 256) &&& 0x0F), UInt8.ofNat m.offset,
      UInt8.ofNat (m.length - minMatch) &&& 0x0F]

/-- Cuts the bytes ahead of the cursor into tokens; the first `skip` of them belong to the copy
just written. -/
def scan : (skip : Nat) → (behind : Bytes) → (done : Array Token) → (ahead : Bytes) → Array Token
  | _, _, done, [] => done
  | skip + 1, behind, done, b :: ahead => scan skip (b :: behind) done ahead
  | 0, behind, done, b :: ahead =>
    match longestMatch behind (b :: ahead) with
    | some m => scan (m.length - 1) (b :: behind) (done.push (.copy m)) ahead
    | none => scan 0 (b :: behind) (done.push (.literal b)) ahead

def tokens (bs : Bytes) : List Token := (scan 0 [] #[] bs).toList

def compress (bs : Bytes) : Bytes := (tokens bs).flatMap Token.encode

/-! ## Decompressing -/

inductive Position where
  | token
  | flagged (first : UInt8)
  | offsetRead (first second : UInt8)
  /-- After a copy from before the start: nothing more is put out. -/
  | stopped
  deriving DecidableEq, Repr, Inhabited

/-- The decompressor: what it has put out so far, and where it stands. -/
structure Decoder where
  output : Array UInt8
  position : Position

def Decoder.start : Decoder := ⟨#[], .token⟩

/-- Repeats the byte `offset` back, `count` times; bytes just put out count too. -/
def copyBack (offset : Nat) : (count : Nat) → Array UInt8 → Array UInt8
  | 0, output => output
  | count + 1, output => copyBack offset count (output.push (output.getD (output.size - offset) 0))

def Decoder.feed (d : Decoder) (b : UInt8) : Decoder :=
  match d.position with
  | .token =>
    if b &&& flag = 0 then { d with output := d.output.push b }
    else { d with position := .flagged b }
  | .flagged first => { d with position := .offsetRead first b }
  | .offsetRead first second =>
    let offset := (first &&& 0x0F).toNat * 256 + second.toNat
    if offset = 0 then ⟨d.output.push b, .token⟩
    else if offset > d.output.size then { d with position := .stopped }
    else ⟨copyBack offset ((b &&& 0x0F).toNat + minMatch) d.output, .token⟩
  | .stopped => d

/-- The bytes that a compressed form stands for. A token cut short at the end says nothing, and a
copy from before the start ends the output. -/
def decompress (bs : Bytes) : Bytes :=
  (bs.foldl Decoder.feed Decoder.start).output.toList

end Telemetry.Compression.Dictionary
