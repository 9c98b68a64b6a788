/-!
# Buckets for deviations

Deviations are counted in buckets: one for each number below 16, and then 16 for each power of two,
so a bucket is never wider than a sixteenth of what it holds. Negative deviations share the first
bucket. The rank of a deviation among those counted picks out a bucket, whose midpoint stands for
the deviation.
-/

namespace Telemetry.Latency

def subBuckets : Nat := 16

/-- The buckets in all: enough for every 63-bit number. -/
def bucketCount : Nat := 960

def bucketOfNat (v : Nat) : Nat :=
  if v < subBuckets then v
  else
    let shift := v.log2 - 4
    subBuckets + shift * subBuckets + (v >>> shift) % subBuckets

def bucketOf (deviation : Int64) : Nat := bucketOfNat deviation.toInt.toNat

def midpoint (bucket : Nat) : Nat :=
  if bucket < subBuckets then bucket
  else
    let shift := (bucket - subBuckets) / subBuckets
    let sub := (bucket - subBuckets) % subBuckets
    ((subBuckets + sub) <<< shift) + (1 <<< shift) / 2

structure Histogram where
  counts : Array Nat
  deriving DecidableEq, Repr, Inhabited

namespace Histogram

def empty : Histogram := ⟨Array.replicate bucketCount 0⟩

def record (h : Histogram) (deviation : Int64) : Histogram :=
  ⟨h.counts.modify (bucketOf deviation) (· + 1)⟩

def zero (h : Histogram) (bucket : Nat) : Histogram := ⟨h.counts.setIfInBounds bucket 0⟩

/-- Sets the buckets to zero, one after another. -/
def clear (h : Histogram) : Histogram := (List.range h.counts.size).foldl zero h

def total (h : Histogram) : Nat := h.counts.foldl (· + ·) 0

/-- The first bucket, from `bucket` on, at which at least `rank` deviations are counted, when
`seen` are counted before it. -/
def bucketAt (rank : Nat) (seen bucket : Nat) : List Nat → Option Nat
  | [] => none
  | n :: rest => if rank ≤ seen + n then some bucket else bucketAt rank (seen + n) (bucket + 1) rest

/-- The rank of a percentile among `total` deviations: at least `percent` percent of them are at
or below it. -/
def rank (percent total : Nat) : Nat := max 1 ((percent * total + 99) / 100)

/-- The deviation that `percent` percent of those counted do not exceed, up to the width of its
bucket. -/
def percentile (h : Histogram) (percent : Nat) : Nat :=
  ((bucketAt (rank percent h.total) 0 0 h.counts.toList).map midpoint).getD 0

end Histogram

end Telemetry.Latency
