import Telemetry.Value.Json.Reading

/-!
# Paths into values

The keys of a file and the names of the environment are paths: names with points between them, each
with any number of indices in brackets behind it. Setting a value under a path makes tables and
arrays of whatever else is in its way. Capital letters in keys count as small ones, and a table that
is set is laid over the one that is there, key by key; what stands inside an array stays as it is.
-/

namespace Telemetry.Config

open Json (Rest)

/-! ## Keys -/

/-- The small form of a letter of ASCII, and of the one other character whose small form is one: the
Kelvin sign. No key that is known has any other letters. -/
def smallLetter (c : Char) : Char := if c = '\u212A' then 'k' else c.toLower

def small (key : String) : String := key.map smallLetter

/-! ## Steps -/

/-- One step of a path: to a key of a table, or to an item of an array, counted from its end if
negative. -/
inductive Step where
  | key (name : String)
  | item (index : Int)
  deriving DecidableEq, Repr, Inhabited

abbrev Path := List Step

def isNameChar (c : Char) : Bool := c.isAlphanum || c == '_' || c == '-' || c == ' '

def name? (cs : Rest) : Option (Step × Rest) :=
  let name := cs.takeWhile isNameChar
  if name.isEmpty then none else some (.key (String.ofList name), cs.drop name.length)

/-- An index of 64 bits up to its closing bracket, with blanks around it. -/
def index? (cs : Rest) : Option (Step × Rest) :=
  let isBlank (c : Char) : Bool := c == ' ' || c == '\t'
  let cs := cs.dropWhile isBlank
  let digits := cs.takeWhile fun c => c.isDigit || c == '-'
  match (cs.drop digits.length).dropWhile isBlank with
  | ']' :: rest => (Decimal.readInt64? (String.ofList digits)).map fun n => (.item n, rest)
  | _ => none

def steps? : (fuel : Nat) → Rest → Option Path
  | _, [] => some []
  | fuel + 1, '.' :: rest => do
    let (step, rest) ← name? rest
    return step :: (← steps? fuel rest)
  | fuel + 1, '[' :: rest => do
    let (step, rest) ← index? rest
    return step :: (← steps? fuel rest)
  | _, _ => none

def Path.parse? (key : String) : Option Path := do
  let (step, rest) ← name? key.toList
  return step :: (← steps? rest.length rest)

/-- The path of a key; one that spells no path is a name as it stands. -/
def Path.ofKey (key : String) : Path :=
  let key := small key
  (Path.parse? key).getD [.key key]

/-! ## Setting -/

def entriesOf : Value → List (String × Value)
  | .table entries => entries
  | _ => []

def itemsOf : Value → List Value
  | .array items => items
  | _ => []

mutual

/-- Sets a key of a value, which becomes a table if it is none. -/
def setKey (key : String) : Value → Value → Value
  | .table incoming, target =>
    let entries := entriesOf target
    let old := (entries.lookup (small key)).getD (.table [])
    .table (Value.insert entries (small key) (setKeys incoming old))
  | v, target => .table (Value.insert (entriesOf target) (small key) v)

def setKeys : List (String × Value) → Value → Value
  | [], target => target
  | (key, v) :: rest, target => setKeys rest (setKey key v target)

end

/-- The place in an array of some size that an index means. -/
def position (index : Int) (size : Nat) : Nat :=
  if index < 0 then size - index.natAbs else index.toNat

/-- Sets a value under a path. An array that is too short is filled up with nothing. -/
def setPath (v : Value) : Path → Value → Value
  | [], _ => v
  | [.key name], target => setKey name v target
  | .key name :: path, target =>
    let entries := entriesOf target
    let old := (entries.lookup name).getD .null
    .table (Value.insert entries name (setPath v path old))
  | .item index :: path, target =>
    let items := itemsOf target
    let place := position index items.length
    let items := items ++ List.replicate (place + 1 - items.length) .null
    .array (items.modify place (setPath v path))

example : Path.parse? "items[ -1 ].name" = some [.key "items", .item (-1), .key "name"] := by
  decide +kernel
example : Path.parse? "a..b" = none ∧ Path.parse? "a[x]" = none := by decide +kernel

end Telemetry.Config
