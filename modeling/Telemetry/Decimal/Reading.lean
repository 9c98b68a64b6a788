/-!
# Reading numbers

Integers are an optional sign and digits. Floating-point numbers are an optional sign and then
digits with an optional point among or around them and an optional exponent, or one of the words
for infinity and for what is no number; the value is the nearest double. A number of digits is
read without regard to how many there are, so an exponent can never ask for more work than the text
is long.
-/

namespace Telemetry.Decimal

def digit? (c : Char) : Option Nat := if c.isDigit then some (c.toNat - 48) else none

/-- The number that digits spell, after what was read before them. -/
def ofDigits (n : Nat) (ds : List Char) : Nat := ds.foldl (fun n c => n * 10 + (c.toNat - 48)) n

def readDigits? (cs : List Char) : Option Nat :=
  if cs.isEmpty || !cs.all Char.isDigit then none else some (ofDigits 0 cs)

/-- An integer: digits after at most one sign. -/
def readInt? (text : String) : Option Int :=
  match text.toList with
  | '-' :: ds => (readDigits? ds).map fun n => -(n : Int)
  | '+' :: ds => (readDigits? ds).map fun n => (n : Int)
  | ds => (readDigits? ds).map fun n => (n : Int)

def readInt64? (text : String) : Option Int :=
  (readInt? text).filter fun n =>
    decide (Int64.minValue.toInt ≤ n) && decide (n ≤ Int64.maxValue.toInt)

/-- A natural number of 64 bits: digits after at most a plus sign. -/
def readNat64? (text : String) : Option Nat :=
  let digits := match text.toList with
    | '+' :: ds => ds
    | ds => ds
  (readDigits? digits).filter fun n => decide (n < UInt64.size)

/-- A decimal number: `mantissa` times ten to the `exponent`. -/
structure Scientific where
  mantissa : Nat
  exponent : Int
  deriving DecidableEq, Repr, Inhabited

/-- The double nearest to a number; far outside the range it is infinity or zero. -/
def Scientific.toFloat (s : Scientific) : Float :=
  let magnitude := s.exponent + (Nat.toDigits 10 s.mantissa).length
  if s.mantissa = 0 then 0.0
  else if 310 < magnitude then 1.0 / 0.0
  else if magnitude < -400 then 0.0
  else if s.exponent < 0 then Float.ofScientific s.mantissa true s.exponent.natAbs
  else Float.ofScientific s.mantissa false s.exponent.natAbs

/-- The exponent that follows a mantissa: nothing, or a letter, a sign and digits. -/
def readExponent? : List Char → Option Int
  | [] => some 0
  | c :: rest => if c = 'e' ∨ c = 'E' then readInt? (String.ofList rest) else none

/-- A number without a sign: digits with an optional point, at least one of them, and an optional
exponent. -/
def readScientific? (cs : List Char) : Option Scientific := do
  let whole := cs.takeWhile Char.isDigit
  let (fraction, rest) := match cs.dropWhile Char.isDigit with
    | '.' :: rest => (rest.takeWhile Char.isDigit, rest.dropWhile Char.isDigit)
    | rest => ([], rest)
  if whole.isEmpty && fraction.isEmpty then none
  else return ⟨ofDigits (ofDigits 0 whole) fraction, (← readExponent? rest) - fraction.length⟩

def readFloat? (text : String) : Option Float :=
  let unsigned (cs : List Char) : Option Float :=
    match String.ofList (cs.map Char.toLower) with
    | "inf" | "infinity" => some (1.0 / 0.0)
    | "nan" => some (0.0 / 0.0)
    | _ => (readScientific? cs).map Scientific.toFloat
  match text.toList with
  | '-' :: cs => (unsigned cs).map fun x => -x
  | '+' :: cs => unsigned cs
  | cs => unsigned cs

end Telemetry.Decimal
