import Telemetry.Value
import Telemetry.Decimal.Reading

/-!
# Reading JSON

A text is one value with blanks around it. An integer that fits 64 bits, with or without a sign,
stays an integer; any other number is a double, and one beyond the range of doubles is refused. Of
equal keys the last one counts. Values are nested 127 deep at most. The reader goes down by that
depth, so each level of nesting is one step of the recursion, and the items of one level are read by
a recursion on the text.
-/

namespace Telemetry.Json

abbrev Rest := List Char

def isBlank (c : Char) : Bool := c == ' ' || c == '\n' || c == '\t' || c == '\r'

def skip (cs : Rest) : Rest := cs.dropWhile isBlank

/-! ## Strings -/

def hexDigit? (c : Char) : Option Nat :=
  if c.isDigit then some (c.toNat - 48)
  else if 'a' ≤ c ∧ c ≤ 'f' then some (c.toNat - 87)
  else if 'A' ≤ c ∧ c ≤ 'F' then some (c.toNat - 55)
  else none

def hex4? : Rest → Option (Nat × Rest)
  | a :: b :: c :: d :: rest => do
    let a ← hexDigit? a
    let b ← hexDigit? b
    let c ← hexDigit? c
    let d ← hexDigit? d
    return (((a * 16 + b) * 16 + c) * 16 + d, rest)
  | _ => none

/-- The character behind a backslash and a `u`: one unit, or a high unit and an escaped low one. -/
def unicode? (cs : Rest) : Option (Char × Rest) := do
  let (high, rest) ← hex4? cs
  if 0xD800 ≤ high ∧ high < 0xDC00 then
    match rest with
    | '\\' :: 'u' :: rest =>
      let (low, rest) ← hex4? rest
      if 0xDC00 ≤ low ∧ low < 0xE000 then
        return (Char.ofNat (0x10000 + (high - 0xD800) * 0x400 + (low - 0xDC00)), rest)
      else none
    | _ => none
  else if 0xDC00 ≤ high ∧ high < 0xE000 then none
  else return (Char.ofNat high, rest)

def escaped? : Rest → Option (Char × Rest)
  | '"' :: rest => some ('"', rest)
  | '\\' :: rest => some ('\\', rest)
  | '/' :: rest => some ('/', rest)
  | 'b' :: rest => some ('\x08', rest)
  | 'f' :: rest => some ('\x0c', rest)
  | 'n' :: rest => some ('\n', rest)
  | 'r' :: rest => some ('\r', rest)
  | 't' :: rest => some ('\t', rest)
  | 'u' :: rest => unicode? rest
  | _ => none

/-- The characters up to the closing quote, with fuel for each of them. -/
def string? : (fuel : Nat) → (done : List Char) → Rest → Option (String × Rest)
  | 0, _, _ => none
  | _ + 1, _, [] => none
  | fuel + 1, done, c :: rest =>
    if c = '"' then some (String.ofList done.reverse, rest)
    else if c = '\\' then do
      let (c, rest) ← escaped? rest
      string? fuel (c :: done) rest
    else if c.toNat < 0x20 then none
    else string? fuel (c :: done) rest

/-! ## Numbers -/

def digits (cs : Rest) : List Char × Rest := (cs.takeWhile Char.isDigit, cs.dropWhile Char.isDigit)

/-- The digits behind a point, if there is one; a point needs a digit. -/
def fraction? : Rest → Option (Option (List Char) × Rest)
  | '.' :: rest =>
    let (ds, rest) := digits rest
    if ds.isEmpty then none else some (some ds, rest)
  | rest => some (none, rest)

/-- The exponent, if there is one; its letter needs a digit. -/
def exponent? : Rest → Option (Option Int × Rest)
  | c :: rest =>
    if c = 'e' ∨ c = 'E' then
      let (negative, rest) := match rest with
        | '-' :: rest => (true, rest)
        | '+' :: rest => (false, rest)
        | rest => (false, rest)
      let (ds, rest) := digits rest
      if ds.isEmpty then none
      else
        let n : Int := Decimal.ofDigits 0 ds
        some (some (if negative then -n else n), rest)
    else some (none, c :: rest)
  | [] => some (none, [])

/-- The value of a number: an integer if it is written as one and fits. -/
def numberValue? (negative : Bool) (whole : List Char) (fraction : Option (List Char))
    (exponent : Option Int) : Option Value :=
  let n := Decimal.ofDigits 0 whole
  let double (s : Decimal.Scientific) : Option Value :=
    let x := s.toFloat
    if x.isInf then none else some (.float (if negative then -x else x))
  match fraction, exponent with
  | none, none =>
    if negative then if 0 < n ∧ Int64.minValue.toInt ≤ -n then some (.int (-n)) else double ⟨n, 0⟩
    else if n < UInt64.size then some (.int n)
    else double ⟨n, 0⟩
  | _, _ =>
    let fraction := fraction.getD []
    double ⟨Decimal.ofDigits n fraction, exponent.getD 0 - fraction.length⟩

/-- A number: no zeros in front of its other digits. -/
def number? (cs : Rest) : Option (Value × Rest) := do
  let (negative, cs) := match cs with
    | '-' :: rest => (true, rest)
    | rest => (false, rest)
  let (whole, cs) := digits cs
  if whole.isEmpty || (whole.head? == some '0' && decide (1 < whole.length)) then none
  let (fraction, cs) ← fraction? cs
  let (exponent, cs) ← exponent? cs
  return (← numberValue? negative whole fraction exponent, cs)

/-! ## Values -/

def word? (word : String) (v : Value) (cs : Rest) : Option (Value × Rest) :=
  if word.toList.isPrefixOf cs then some (v, cs.drop word.length) else none

def items? (value? : Rest → Option (Value × Rest)) :
    (fuel : Nat) → (done : List Value) → Rest → Option (Value × Rest)
  | 0, _, _ => none
  | fuel + 1, done, cs => do
    let (v, cs) ← value? (skip cs)
    match skip cs with
    | ',' :: rest => items? value? fuel (v :: done) rest
    | ']' :: rest => some (.array (v :: done).reverse, rest)
    | _ => none

def entries? (value? : Rest → Option (Value × Rest)) :
    (fuel : Nat) → (done : List (String × Value)) → Rest → Option (Value × Rest)
  | 0, _, _ => none
  | fuel + 1, done, cs =>
    match skip cs with
    | '"' :: rest => do
      let (key, cs) ← string? (rest.length + 1) [] rest
      match skip cs with
      | ':' :: rest =>
        let (v, cs) ← value? (skip rest)
        let done := Value.insert done key v
        match skip cs with
        | ',' :: rest => entries? value? fuel done rest
        | '\x7d' :: rest => some (.table done, rest)
        | _ => none
      | _ => none
    | _ => none

def value? : (depth : Nat) → Rest → Option (Value × Rest)
  | _, '"' :: rest =>
    (string? (rest.length + 1) [] rest).map fun (s, rest) => (.text s, rest)
  | 0, '[' :: _ => none
  | depth + 1, '[' :: rest =>
    match skip rest with
    | ']' :: rest => some (.array [], rest)
    | rest => items? (value? depth) (rest.length + 1) [] rest
  | 0, '\x7b' :: _ => none
  | depth + 1, '\x7b' :: rest =>
    match skip rest with
    | '\x7d' :: rest => some (.table [], rest)
    | rest => entries? (value? depth) (rest.length + 1) [] rest
  | _, 'n' :: rest => word? "null" .null ('n' :: rest)
  | _, 't' :: rest => word? "true" (.bool true) ('t' :: rest)
  | _, 'f' :: rest => word? "false" (.bool false) ('f' :: rest)
  | _, cs => number? cs

def maxDepth : Nat := 127

def parse? (text : String) : Option Value := do
  let (v, rest) ← value? maxDepth (skip text.toList)
  if (skip rest).isEmpty then return v else none

end Telemetry.Json
