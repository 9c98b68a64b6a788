/-!
# The shortest text of a double

A double is written with the fewest digits that read back as the same double, and of those with the
nearest; of two that are equally near, a format says which it takes. A finite double is `m * 2 ^ q`,
and the reals that read as it are those between the midpoints to its neighbours, the midpoints
themselves included where `m` is even. For each number of digits in turn, the two points of the
decimal grid next to the double are tested against that interval, in exact arithmetic.
-/

namespace Telemetry.Decimal

structure Fraction where
  num : Nat
  den : Nat
  deriving DecidableEq, Repr, Inhabited

/-- `m` times two to the `q`. -/
def Fraction.ofBinary (m : Nat) (q : Int) : Fraction :=
  if q < 0 then ⟨m, 1 <<< q.natAbs⟩ else ⟨m <<< q.natAbs, 1⟩

def Fraction.ofDecimal (d : Nat) (p : Int) : Fraction :=
  if p < 0 then ⟨d, Nat.pow 10 p.natAbs⟩ else ⟨d * Nat.pow 10 p.natAbs, 1⟩

def Fraction.lt (a b : Fraction) : Bool := decide (a.num * b.den < b.num * a.den)

def Fraction.distance (a b : Fraction) : Fraction :=
  let x := a.num * b.den
  let y := b.num * a.den
  ⟨max x y - min x y, a.den * b.den⟩

/-- The reals that read as one double. -/
structure Interval where
  lower : Fraction
  upper : Fraction
  closed : Bool
  deriving DecidableEq, Repr, Inhabited

def Interval.contains (i : Interval) (x : Fraction) : Bool :=
  if i.closed then !x.lt i.lower && !i.upper.lt x else i.lower.lt x && x.lt i.upper

def signBit : Nat := 0x8000000000000000

/-- The bit in front of the mantissa of a double that is not too small for it. -/
def leadingBit : Nat := 0x10000000000000

/-- The mantissa and the binary exponent of the magnitude of a finite double. -/
def binaryParts (x : Float) : Nat × Int :=
  let bits := x.toBits.toNat % signBit
  let biased : Nat := bits / leadingBit
  let low : Nat := bits % leadingBit
  if biased = 0 then (low, -1074) else (low + leadingBit, (biased : Int) - 1075)

/-- The interval of `m` times two to the `q`. Below a power of two the doubles lie twice as
dense, except below the smallest one. -/
def interval (m : Nat) (q : Int) : Interval where
  lower :=
    if m = leadingBit ∧ q ≠ -1074 then .ofBinary (4 * m - 1) (q - 2)
    else .ofBinary (2 * m - 1) (q - 1)
  upper := .ofBinary (2 * m + 1) (q - 1)
  closed := m % 2 == 0

/-- The largest power of ten that is at most a fraction. -/
def Fraction.log10 (x : Fraction) : Int :=
  if x.den ≤ x.num then (Nat.toDigits 10 (x.num / x.den)).length - 1
  else
    let n := (Nat.toDigits 10 (x.den / x.num)).length
    if x.den ≤ x.num * Nat.pow 10 (n - 1) then -((n : Int) - 1) else -(n : Int)

/-- Which of two equally near decimals is taken: the larger one, or the one whose last digit is
even. -/
inductive Tie where
  | up
  | even
  deriving DecidableEq, Repr, Inhabited

def Tie.takesAbove (tie : Tie) (above : Nat) : Bool :=
  match tie with
  | .up => true
  | .even => above % 2 == 0

/-- The better of the two points of the grid of `10 ^ p` next to a fraction, of those in the
interval. -/
def gridPoint? (tie : Tie) (i : Interval) (x : Fraction) (p : Int) : Option Nat :=
  let unit := Fraction.ofDecimal 1 p
  let below := x.num * unit.den / (x.den * unit.num)
  let above := below + 1
  let point (d : Nat) := Fraction.ofDecimal d p
  match i.contains (point below), i.contains (point above) with
  | true, true =>
    if ((point above).distance x).lt ((point below).distance x) then some above
    else if ((point below).distance x).lt ((point above).distance x) then some below
    else if tie.takesAbove above then some above
    else some below
  | true, false => some below
  | false, true => some above
  | false, false => none

/-- The shortest decimal, as digits and a power of ten, trying `tries` more lengths from `digits`
on. -/
def shortestFrom (tie : Tie) (i : Interval) (x : Fraction) (leading : Int) :
    (tries digits : Nat) → Nat × Int
  | 0, _ => (0, 0)
  | tries + 1, digits =>
    let p := leading - digits + 1
    match gridPoint? tie i x p with
    | some d => if d % 10 = 0 then (d / 10, p + 1) else (d, p)
    | none => shortestFrom tie i x leading tries (digits + 1)

/-- The shortest decimal that reads as a finite, positive double. -/
def shortest (tie : Tie) (x : Float) : Nat × Int :=
  let (m, q) := binaryParts x
  let value := Fraction.ofBinary m q
  shortestFrom tie (interval m q) value value.log10 17 1

/-- A decimal without an exponent: zeros fill up the places before the point, and there is a point
only where there are digits behind it. -/
def positional (d : Nat) (p : Int) : String :=
  let digits := Nat.toDigits 10 d
  if 0 ≤ p then String.ofList (digits ++ List.replicate p.natAbs '0')
  else
    let places := p.natAbs
    let padded := List.replicate (places + 1 - digits.length) '0' ++ digits
    let (whole, fraction) := padded.splitAt (padded.length - places)
    String.ofList (whole ++ '.' :: fraction)

/-- The text of a double: the shortest digits, of two equally near ones the larger, in positional
form, a minus sign for the negative ones and for the negative zero, and a word for infinity and for
what is no number. -/
def text (x : Float) : String :=
  let sign := if x.toBits.toNat < signBit then "" else "-"
  if x.isNaN then "NaN"
  else if x.isInf then sign ++ "inf"
  else if x == 0.0 then sign ++ "0"
  else
    let (d, p) := shortest .up x
    sign ++ positional d p

end Telemetry.Decimal
