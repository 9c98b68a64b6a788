import Telemetry.Value.Toml.Moment

/-!
# Tables of TOML

While a text is being read, its tables differ in how they came about, and that decides what may
still be added to them. A table that only stands on the way to a heading may be headed once. A table
that stands on the way to a key takes further keys on the same way, but no heading. A headed table
takes keys under its heading alone, though tables below it may be headed anywhere. What was written
as a value, be it a table or an array, takes nothing more. Of an array of tables the last one is
open, like a headed one.

Once all is read, the tables are turned into values. A table that begins with a certain key stands
for a moment.
-/

namespace Telemetry.Toml

/-- How a table came about: as a value, on the way to a heading, on the way to a key, or by its own
heading. -/
inductive Origin where
  | written
  | implied
  | dotted
  | headed
  deriving DecidableEq, Repr, Inhabited

/-- What belongs to a key: a value of one word or a string, a moment, an array, a table, or an array
of tables of which the last is open. -/
inductive Node where
  | value (v : Value)
  | moment (text : String)
  | array (items : List Node)
  | table (origin : Origin) (entries : List (String × Node))
  | tables (before : List Node) (last : List (String × Node))
  deriving Inhabited

abbrev Nodes := List (String × Node)

/-! ## Values -/

/-- The first key of a table that stands for a moment. -/
def momentKey : String := "$__toml_private_datetime"

def Node.momentOf? : Node → Option Value
  | .value (.text s) => (Toml.momentOf? s).map .text
  | _ => none

mutual

def Node.toValue? : Node → Option Value
  | .value v => some v
  | .moment s => some (.text s)
  | .array items => (toItems? items).map .array
  | .table _ entries => tableValue? entries
  | .tables before last => do
    let before ← toItems? before
    return .array (before ++ [← tableValue? last])

def toItems? : List Node → Option (List Value)
  | [] => some []
  | node :: rest => do
    let v ← node.toValue?
    return v :: (← toItems? rest)

def toEntries? : List (String × Node) → Option (List (String × Value))
  | [] => some []
  | (key, node) :: rest => do
    let v ← node.toValue?
    return (key, v) :: (← toEntries? rest)

/-- What a table with these entries stands for: a moment if its first key says so, whatever else is
in it. -/
def tableValue? : List (String × Node) → Option Value
  | [] => some (.table [])
  | (key, node) :: rest => do
    if key = momentKey then node.momentOf?
    else
      let v ← node.toValue?
      return .table ((key, v) :: (← toEntries? rest))

end

/-! ## Adding -/

/-- Changes the table under a path. Where there is none on the way, tables of the origin `made` are
put. The way to a key does not lead through headed tables, and no way leads through what was written
as a value. -/
def descend (made : Origin) (change : Origin → Nodes → Option Nodes) :
    List String → Origin → Nodes → Option Nodes
  | [], origin, entries => change origin entries
  | part :: path, _, entries => do
    let node ← match entries.lookup part with
      | none => (descend made change path made []).map (.table made)
      | some (.table origin inner) =>
        if origin = .written ∨ (made = .dotted ∧ origin = .headed) then none
        else (descend made change path origin inner).map (.table origin)
      | some (.tables before last) => (descend made change path .headed last).map (.tables before)
      | some _ => none
    return Value.insert entries part node

/-- Sets what belongs to a path that starts in a table. The key must be new. The table that it
belongs to must be that very table, or have come about on the way to a key. -/
def setPath (path : List String) (node : Node) (entries : Nodes) : Option Nodes := do
  let key ← path.getLast?
  let set (origin : Origin) (entries : Nodes) : Option Nodes :=
    if origin = .dotted ∧ (entries.lookup key).isNone then some (entries ++ [(key, node)])
    else none
  descend .dotted set path.dropLast .dotted entries

/-- Heads a table that is new or only stands on the way to a heading. It comes behind those that are
there. -/
def headTable (path : List String) (entries : Nodes) : Option Nodes := do
  let key ← path.getLast?
  let head (_ : Origin) (entries : Nodes) : Option Nodes :=
    let others := entries.filter fun (k, _) => k != key
    match entries.lookup key with
    | none => some (others ++ [(key, .table .headed [])])
    | some (.table .implied inner) => some (others ++ [(key, .table .headed inner)])
    | some _ => none
  descend .implied head path.dropLast .headed entries

/-- Adds a table to an array of tables, which is new if there is none. -/
def headItem (path : List String) (entries : Nodes) : Option Nodes := do
  let key ← path.getLast?
  let head (_ : Origin) (entries : Nodes) : Option Nodes :=
    match entries.lookup key with
    | none => some (entries ++ [(key, .tables [] [])])
    | some (.tables before last) =>
      some (Value.insert entries key (.tables (before ++ [.table .headed last]) []))
    | some _ => none
  descend .implied head path.dropLast .headed entries

end Telemetry.Toml
