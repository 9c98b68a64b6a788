import Telemetry.Decimal.Reading

/-!
# Socket addresses

An address of four bytes or of eight units of 16 bits, and a port. The first kind is written
`a.b.c.d:port`, the second one `[address]:port`. Numbers of the first kind have no zeros in front.
An address of units is written with hexadecimal digits in lower case, without zeros in front; the
longest stretch of two zero units or more, the first of equal ones, is left out between two colons;
one that stands for four bytes ends in those.
-/

namespace Telemetry.Network

inductive SocketAddress where
  /-- Four bytes and a port. -/
  | v4 (bytes : List Nat) (port : Nat)
  /-- Eight units, a zone and a port. -/
  | v6 (units : List Nat) (zone port : Nat)
  deriving DecidableEq, Repr, Inhabited

/-! ## Reading -/

/-- A number of digits in a base: no more of them than `width`, and a value of at most `max`. -/
def number? (digit? : Char → Option Nat) (base width max : Nat) (leadingZeros : Bool)
    (cs : List Char) : Option Nat := do
  if cs.isEmpty || decide (width < cs.length) then none
  if !leadingZeros && cs.head? == some '0' && decide (1 < cs.length) then none
  let n ← cs.foldlM (fun n c => (digit? c).map (n * base + ·)) 0
  if n ≤ max then return n else none

def hexDigit? (c : Char) : Option Nat :=
  if c.isDigit then some (c.toNat - 48)
  else if 'a' ≤ c ∧ c ≤ 'f' then some (c.toNat - 87)
  else if 'A' ≤ c ∧ c ≤ 'F' then some (c.toNat - 55)
  else none

/-- A port; zeros in front do no harm. -/
def port? (cs : List Char) : Option Nat := number? Decimal.digit? 10 cs.length 65535 true cs

def bytes? (cs : List Char) : Option (List Nat) := do
  let parts ← (cs.splitOn '.').mapM (number? Decimal.digit? 10 3 255 false)
  if parts.length = 4 then return parts else none

/-- Units with colons between them; the last part may be four bytes, which are two units. -/
def units? : List (List Char) → Option (List Nat)
  | [] => some []
  | [part] =>
    match number? hexDigit? 16 4 65535 true part, bytes? part with
    | some n, _ => some [n]
    | none, some [a, b, c, d] => some [a * 256 + b, c * 256 + d]
    | none, _ => none
  | part :: rest => do return (← number? hexDigit? 16 4 65535 true part) :: (← units? rest)

def unitList? (cs : List Char) : Option (List Nat) :=
  if cs.isEmpty then some [] else units? (cs.splitOn ':')

/-- The parts of a text before and after its first two colons in a row. -/
def cutDouble : (done : List Char) → List Char → Option (List Char × List Char)
  | done, ':' :: ':' :: rest => some (done.reverse, rest)
  | done, c :: rest => cutDouble (c :: done) rest
  | _, [] => none

def endsInBytes (cs : List Char) : Bool := cs.contains '.'

/-- Eight units; two colons in a row stand for as many zeros as are missing. -/
def address6? (cs : List Char) : Option (List Nat) :=
  match cutDouble [] cs with
  | none => (unitList? cs).filter fun units => units.length == 8
  | some (front, back) => do
    if endsInBytes front then none
    let front ← unitList? front
    let back ← unitList? back
    let present := front.length + back.length
    if present ≤ 7 then return front ++ List.replicate (8 - present) 0 ++ back else none

def SocketAddress.parse? (text : String) : Option SocketAddress :=
  match text.toList with
  | '[' :: rest => do
    let inside := rest.takeWhile (· != ']')
    let address := inside.takeWhile (· != '%')
    let zone ← match inside.drop address.length with
      | [] => some 0
      | _ :: zone => number? Decimal.digit? 10 zone.length (UInt32.size - 1) true zone
    match rest.drop inside.length with
    | ']' :: ':' :: port => return .v6 (← address6? address) zone (← port? port)
    | _ => none
  | cs => do
    let address := cs.takeWhile (· != ':')
    match cs.drop address.length with
    | ':' :: port => return .v4 (← bytes? address) (← port? port)
    | _ => none

/-! ## Writing -/

def hex (n : Nat) : String := String.ofList (Nat.toDigits 16 n)

def zeros (units : List Nat) : Nat := (units.takeWhile (· == 0)).length

/-- Where the longest stretch of zeros begins, and its length; the first of equal ones. -/
def longestZeros : (start : Nat) → (best : Nat × Nat) → List Nat → Nat × Nat
  | _, best, [] => best
  | start, best, n :: rest =>
    let length := zeros (n :: rest)
    longestZeros (start + 1) (if best.2 < length then (start, length) else best) rest

def writeUnits (units : List Nat) : String :=
  match units with
  | [0, 0, 0, 0, 0, 65535, a, b] =>
    s!"::ffff:{a / 256}.{a % 256}.{b / 256}.{b % 256}"
  | _ =>
    let (start, length) := longestZeros 0 (0, 0) units
    let join (units : List Nat) := String.intercalate ":" (units.map hex)
    if length < 2 then join units
    else join (units.take start) ++ "::" ++ join (units.drop (start + length))

def SocketAddress.write : SocketAddress → String
  | v4 bytes port => String.intercalate "." (bytes.map toString) ++ s!":{port}"
  | v6 units zone port =>
    let zone := if zone = 0 then "" else s!"%{zone}"
    s!"[{writeUnits units}{zone}]:{port}"

end Telemetry.Network
