import Telemetry.Value.Toml.Number
import Telemetry.Value.Toml.Table
import Telemetry.Value.Toml.Text

/-!
# Reading TOML

A text is lines: blank ones, headings of tables in brackets, headings of further tables of an array
in double brackets, and settings, each of a key to a value. A setting belongs to the table of the
last heading. Arrays may go over several lines, tables between braces may not. A byte order mark in
front says nothing.
-/

namespace Telemetry.Toml

open Json (Rest)

/-! ## Values -/

def items? (value? : Rest → Option (Node × Rest)) :
    (fuel : Nat) → (done : List Node) → Rest → Option (Node × Rest)
  | 0, _, _ => none
  | fuel + 1, done, cs =>
    match skipLines (cs.length + 1) cs with
    | ']' :: rest => some (.array done.reverse, rest)
    | cs => do
      let (v, cs) ← value? cs
      match skipLines (cs.length + 1) cs with
      | ',' :: rest => items? value? fuel (v :: done) rest
      | ']' :: rest => some (.array (v :: done).reverse, rest)
      | _ => none

def settings? (value? : Rest → Option (Node × Rest)) :
    (fuel : Nat) → (done : Nodes) → Rest → Option (Node × Rest)
  | 0, _, _ => none
  | fuel + 1, done, cs => do
    let (path, cs) ← key? cs
    match cs with
    | '=' :: rest =>
      let (v, cs) ← value? (skip rest)
      let done ← setPath path v done
      match skip cs with
      | ',' :: rest => settings? value? fuel done rest
      | '\x7d' :: rest => some (.table .written done, rest)
      | _ => none
    | _ => none

/-- A string, behind the first of its quotes; it is a long one behind three of them. -/
def string? (quote : Char) (cs : Rest) : Option (String × Rest) :=
  let escapes := quote == '"'
  if [quote, quote].isPrefixOf cs then
    longString? quote escapes (cs.length + 1) [] (afterOpening (cs.drop 2))
  else if escapes then basic? (cs.length + 1) [] cs
  else literal? cs

def value? : (depth : Nat) → Rest → Option (Node × Rest)
  | _, '"' :: rest => (string? '"' rest).map fun (s, rest) => (.value (.text s), rest)
  | _, '\'' :: rest => (string? '\'' rest).map fun (s, rest) => (.value (.text s), rest)
  | 0, '[' :: _ => none
  | depth + 1, '[' :: rest => items? (value? depth) (rest.length + 1) [] rest
  | 0, '\x7b' :: _ => none
  | depth + 1, '\x7b' :: rest =>
    match skip rest with
    | '\x7d' :: rest => some (.table .written [], rest)
    | rest => settings? (value? depth) (rest.length + 1) [] rest
  | _, cs =>
    match moment? cs with
    | some (s, rest) => some (.moment s, rest)
    | none => (word? cs).map fun (v, rest) => (.value v, rest)

/-! ## Lines -/

/-- What was read so far, and the table that settings belong to. -/
structure Document where
  entries : Nodes
  current : List String
  deriving Inhabited

def Document.head (d : Document) (path : List String) : Option Document :=
  (headTable path d.entries).map fun entries => ⟨entries, path⟩

def Document.headItem (d : Document) (path : List String) : Option Document :=
  (Toml.headItem path d.entries).map fun entries => ⟨entries, path⟩

def Document.set (d : Document) (path : List String) (node : Node) : Option Document :=
  (descend .implied (fun _ entries => setPath path node entries) d.current .headed d.entries).map
    fun entries => { d with entries }

/-- Reads one line that is not blank. -/
def Document.line (d : Document) (cs : Rest) : Option (Document × Rest) :=
  match cs with
  | '[' :: '[' :: rest => do
    let (path, cs) ← key? rest
    match cs with
    | ']' :: ']' :: rest => return (← d.headItem path, ← finishLine? rest)
    | _ => none
  | '[' :: rest => do
    let (path, cs) ← key? rest
    match cs with
    | ']' :: rest => return (← d.head path, ← finishLine? rest)
    | _ => none
  | _ => do
    let (path, cs) ← key? cs
    match cs with
    | '=' :: rest =>
      let (v, cs) ← value? maxDepth (skip rest)
      return (← d.set path v, ← finishLine? cs)
    | _ => none

def Document.lines : (fuel : Nat) → Document → Rest → Option Document
  | 0, _, _ => none
  | fuel + 1, d, cs =>
    match skipLines (cs.length + 1) cs with
    | [] => some d
    | cs => do
      let (d, rest) ← d.line cs
      lines fuel d rest

/-- The value that a text spells, mostly a table. -/
def parse? (text : String) : Option Value := do
  let cs := match text.toList with
    | '\uFEFF' :: rest => rest
    | cs => cs
  let d ← Document.lines (cs.length + 1) ⟨[], []⟩ cs
  tableValue? d.entries

example : (parse? "[a.b]\n[a]\nc.d = 1\n[a.c.e]\n").isSome := by decide +kernel
example : (parse? "a.b = 1\n[a]\n").isNone ∧ (parse? "[a.b]\n[a]\nb.c = 1\n").isNone := by
  decide +kernel

end Telemetry.Toml
