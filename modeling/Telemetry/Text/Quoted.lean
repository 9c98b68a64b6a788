import Telemetry.Text.Hidden

/-!
# Quoted texts

A text in double quotes. Quotes and backslashes inside it stand behind a backslash, some control
characters have letters of their own, and the other characters that cannot be seen are written as
code points.
-/

namespace Telemetry.Text

/-- A character inside quotes. -/
def quoteChar (c : Char) : String :=
  match c with
  | '"' => "\\\""
  | '\\' => "\\\\"
  | '\n' => "\\n"
  | '\r' => "\\r"
  | '\t' => "\\t"
  | '\x00' => "\\0"
  | c =>
    if isHidden c then "\\u\x7b" ++ String.ofList (Nat.toDigits 16 c.toNat) ++ "\x7d"
    else String.ofList [c]

def quoted (s : String) : String := "\"" ++ String.join (s.toList.map quoteChar) ++ "\""

end Telemetry.Text
