import Telemetry.Value.Json.Reading

/-!
# The words of TOML

Blanks, comments, ends of lines, strings and keys. A reader takes what is left of a text and returns
what it read together with the rest; it returns nothing where the text cannot be read.
-/

namespace Telemetry.Toml

open Json (Rest)

/-! ## Blanks -/

def isBlank (c : Char) : Bool := c == ' ' || c == '\t'

def skip (cs : Rest) : Rest := cs.dropWhile isBlank

/-- Whether a character may stand in a comment or a string. -/
def isPrintable (c : Char) : Bool := c == '\t' || (decide (0x20 ≤ c.toNat) && c.toNat != 0x7F)

/-- What follows the end of a line, which may be the end of the text. -/
def endOfLine? : Rest → Option Rest
  | [] => some []
  | '\n' :: rest => some rest
  | '\r' :: '\n' :: rest => some rest
  | _ => none

def skipComment : Rest → Rest
  | '#' :: rest => rest.dropWhile isPrintable
  | rest => rest

def finishLine? (cs : Rest) : Option Rest := endOfLine? (skipComment (skip cs))

/-- Leaves out blanks, comments and ends of lines, with fuel for each line. -/
def skipLines : (fuel : Nat) → Rest → Rest
  | 0, cs => cs
  | fuel + 1, cs =>
    match finishLine? cs with
    | some [] => []
    | some rest => skipLines fuel rest
    | none => skip cs

/-! ## Strings -/

/-- The character behind a backslash and the letter of a code point, which has so many digits. -/
def codePoint? (width : Nat) (cs : Rest) : Option (Char × Rest) := do
  let (ds, rest) := cs.splitAt width
  if ds.length ≠ width then none
  let n ← ds.foldlM (fun n c => (Json.hexDigit? c).map (n * 16 + ·)) 0
  if n < 0xD800 ∨ (0xE000 ≤ n ∧ n < 0x110000) then return (Char.ofNat n, rest) else none

def escaped? : Rest → Option (Char × Rest)
  | '"' :: rest => some ('"', rest)
  | '\\' :: rest => some ('\\', rest)
  | 'b' :: rest => some ('\x08', rest)
  | 'f' :: rest => some ('\x0c', rest)
  | 'n' :: rest => some ('\n', rest)
  | 'r' :: rest => some ('\r', rest)
  | 't' :: rest => some ('\t', rest)
  | 'u' :: rest => codePoint? 4 rest
  | 'U' :: rest => codePoint? 8 rest
  | _ => none

def basic? : (fuel : Nat) → (done : List Char) → Rest → Option (String × Rest)
  | 0, _, _ => none
  | _ + 1, _, [] => none
  | fuel + 1, done, c :: rest =>
    if c = '"' then some (String.ofList done.reverse, rest)
    else if c = '\\' then do
      let (c, rest) ← escaped? rest
      basic? fuel (c :: done) rest
    else if isPrintable c then basic? fuel (c :: done) rest
    else none

def literal? (cs : Rest) : Option (String × Rest) :=
  let body := cs.takeWhile fun c => isPrintable c && c != '\''
  match cs.drop body.length with
  | '\'' :: rest => some (String.ofList body, rest)
  | _ => none

def skipBreaks : (fuel : Nat) → Rest → Rest
  | 0, cs => cs
  | fuel + 1, cs =>
    match endOfLine? (skip cs) with
    | some [] => []
    | some rest => skipBreaks fuel rest
    | none => skip cs

/-- The characters up to three closing quotes, with fuel for each of them. One or two more quotes in
front of the closing ones still belong to the text. A backslash at the end of a line leaves out the
blanks and ends of lines that follow. -/
def longString? (quote : Char) (escapes : Bool) :
    (fuel : Nat) → (done : List Char) → Rest → Option (String × Rest)
  | 0, _, _ => none
  | _ + 1, _, [] => none
  | fuel + 1, done, c :: rest =>
    let quotes := ((c :: rest).takeWhile (· == quote)).length
    if 3 ≤ quotes then
      let inner := min (quotes - 3) 2
      some (String.ofList (done.reverse ++ List.replicate inner quote), rest.drop (inner + 2))
    else if escapes ∧ c = '\\' then
      match endOfLine? (skip rest) with
      | some rest => longString? quote escapes fuel done (skipBreaks rest.length rest)
      | none => do
        let (c, rest) ← escaped? rest
        longString? quote escapes fuel (c :: done) rest
    else if isPrintable c ∨ c = '\n' then longString? quote escapes fuel (c :: done) rest
    else if c = '\r' ∧ rest.head? = some '\n' then longString? quote escapes fuel done rest
    else none

/-- What follows an end of line right behind an opening quote. -/
def afterOpening (cs : Rest) : Rest :=
  match cs with
  | '\n' :: rest => rest
  | '\r' :: '\n' :: rest => rest
  | rest => rest

/-! ## Keys -/

def isBare (c : Char) : Bool := c.isAlphanum || c == '_' || c == '-'

def keyPart? : Rest → Option (String × Rest)
  | '"' :: rest => basic? (rest.length + 1) [] rest
  | '\'' :: rest => literal? rest
  | cs =>
    let part := cs.takeWhile isBare
    if part.isEmpty then none else some (String.ofList part, cs.drop part.length)

def keyParts? : (fuel : Nat) → (done : List String) → Rest → Option (List String × Rest)
  | 0, _, _ => none
  | fuel + 1, done, cs => do
    let (part, cs) ← keyPart? (skip cs)
    match skip cs with
    | '.' :: rest => keyParts? fuel (part :: done) rest
    | rest => some ((part :: done).reverse, rest)

/-- How many parts a key has at most, and how deep values are nested. -/
def maxDepth : Nat := 79

def key? (cs : Rest) : Option (List String × Rest) := keyParts? maxDepth [] cs

end Telemetry.Toml
