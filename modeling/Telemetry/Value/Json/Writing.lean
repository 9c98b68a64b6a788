import Telemetry.Decimal.Shortest
import Telemetry.Value

/-!
# Writing JSON

A value is written without blanks, the entries of a table in their order. Quotes, backslashes and
control characters of a text are escaped, everything else stands for itself. A double has the fewest
digits that read back; its exponent is written out only for magnitudes below 10⁻⁵ and from 10¹⁶ on,
and a double without a fraction ends in `.0`, so that it reads back as a double. Of two equally near
decimals the one with an even last digit is written.
-/

namespace Telemetry.Json

def escape (c : Char) : String :=
  match c with
  | '"' => "\\\""
  | '\\' => "\\\\"
  | '\x08' => "\\b"
  | '\x0c' => "\\f"
  | '\n' => "\\n"
  | '\r' => "\\r"
  | '\t' => "\\t"
  | c =>
    if c.toNat < 0x20 then
      String.ofList
        ['\\', 'u', '0', '0', Nat.digitChar (c.toNat / 16), Nat.digitChar (c.toNat % 16)]
    else c.toString

def writeText (s : String) : String := "\"" ++ String.join (s.toList.map escape) ++ "\""

/-- A decimal whose point stands behind its first digit, with its exponent. -/
def scientific (d : Nat) (p : Int) : String :=
  let digits := Nat.toDigits 10 d
  let fraction := if digits.length = 1 then [] else '.' :: digits.drop 1
  String.ofList (digits.take 1 ++ fraction) ++ "e" ++ toString (p + digits.length - 1)

def writeDecimal (d : Nat) (p : Int) : String :=
  let point := p + (Nat.toDigits 10 d).length
  if -5 < point ∧ point ≤ 16 then
    if 0 ≤ p then Decimal.positional d p ++ ".0" else Decimal.positional d p
  else scientific d p

/-- A double; what is no finite number is nothing. -/
def writeFloat (x : Float) : String :=
  let sign := if x.toBits.toNat < Decimal.signBit then "" else "-"
  if x.isNaN || x.isInf then "null"
  else if x == 0.0 then sign ++ "0.0"
  else
    let (d, p) := Decimal.shortest .even x
    sign ++ writeDecimal d p

mutual

def write : Value → String
  | .null => "null"
  | .bool b => if b then "true" else "false"
  | .int n => toString n
  | .float x => writeFloat x
  | .text s => writeText s
  | .array items => "[" ++ ",".intercalate (writeItems items) ++ "]"
  | .table entries => "\x7b" ++ ",".intercalate (writeEntries entries) ++ "\x7d"

def writeItems : List Value → List String
  | [] => []
  | v :: rest => write v :: writeItems rest

def writeEntries : List (String × Value) → List String
  | [] => []
  | (key, v) :: rest => (writeText key ++ ":" ++ write v) :: writeEntries rest

end

end Telemetry.Json
