import Telemetry.Value.Json.Reading

/-!
# Numbers of TOML

Values of one word: booleans, integers of 64 bits and doubles. Underscores may part the digits of a
number, each with a digit on both sides.
-/

namespace Telemetry.Toml

open Json (Rest)

/-- The digits of a number without the underscores between them. -/
def groups? (isDigit : Char → Bool) (cs : List Char) : Option (List Char) :=
  let parts := cs.splitOn '_'
  if parts.all fun part => !part.isEmpty && part.all isDigit then some parts.flatten else none

def based? (base : Nat) (cs : List Char) : Option Value := do
  let ds ← groups? (fun c => (Json.hexDigit? c).any (· < base)) cs
  let n := ds.foldl (fun n c => n * base + (Json.hexDigit? c).getD 0) 0
  if n ≤ Int64.maxValue.toInt then return .int n else none

def decimalDigits? (cs : List Char) : Option (List Char × List Char) :=
  let isPart (c : Char) : Bool := c.isDigit || c == '_'
  (groups? Char.isDigit (cs.takeWhile isPart)).map fun ds => (ds, cs.dropWhile isPart)

def fraction? : List Char → Option (List Char × List Char)
  | '.' :: rest => decimalDigits? rest
  | rest => some ([], rest)

def exponent? : List Char → Option Int
  | [] => some 0
  | c :: rest => do
    if c ≠ 'e' ∧ c ≠ 'E' then none
    let (negative, rest) := match rest with
      | '-' :: rest => (true, rest)
      | '+' :: rest => (false, rest)
      | rest => (false, rest)
    let ds ← groups? Char.isDigit rest
    let n : Int := Decimal.ofDigits 0 ds
    return if negative then -n else n

/-- A decimal number without its sign. A positive one beyond the range of doubles is refused. -/
def decimal? (negative : Bool) (cs : List Char) : Option Value := do
  let (whole, rest) ← decimalDigits? cs
  if whole.head? = some '0' ∧ 1 < whole.length then none
  if rest.isEmpty then
    let n : Int := Decimal.ofDigits 0 whole
    let n := if negative then -n else n
    if Int64.minValue.toInt ≤ n ∧ n ≤ Int64.maxValue.toInt then return .int n else none
  else
    let (fraction, rest) ← fraction? rest
    let exponent ← exponent? rest
    let x := Decimal.Scientific.toFloat
      ⟨Decimal.ofDigits (Decimal.ofDigits 0 whole) fraction, exponent - fraction.length⟩
    if negative then return .float (-x)
    else if x.isInf then none
    else return .float x

/-- A number behind its sign, or one of the words for infinity and for what is no number. -/
def signed? (negative : Bool) (cs : List Char) : Option Value :=
  match String.ofList cs with
  | "inf" => some (.float (if negative then -1.0 / 0.0 else 1.0 / 0.0))
  | "nan" => some (.float (0.0 / 0.0))
  | _ => decimal? negative cs

def scalar? : List Char → Option Value
  | ['t', 'r', 'u', 'e'] => some (.bool true)
  | ['f', 'a', 'l', 's', 'e'] => some (.bool false)
  | '0' :: 'x' :: rest => based? 16 rest
  | '0' :: 'o' :: rest => based? 8 rest
  | '0' :: 'b' :: rest => based? 2 rest
  | '-' :: rest => signed? true rest
  | '+' :: rest => signed? false rest
  | rest => signed? false rest

def isWord (c : Char) : Bool := c.isAlphanum || c == '_' || c == '-' || c == '+' || c == '.'

def word? (cs : Rest) : Option (Value × Rest) :=
  (scalar? (cs.takeWhile isWord)).map fun v => (v, cs.dropWhile isWord)

end Telemetry.Toml
