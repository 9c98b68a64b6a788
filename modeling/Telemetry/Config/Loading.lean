import Telemetry.Config.Path
import Telemetry.Config.Reading
import Telemetry.Value.Toml.Reading

/-!
# Loading configurations

A configuration comes from one file and from the environment, and what the environment says comes
before the file. A file is found under its name, or under its name with the extension of a known
format; the extension says how it is read. The keys of a file are paths. A variable of the
environment counts if its name begins with `BRIDGE__`, and the rest of the name is a path in which
two underscores part the levels; its value is a boolean, a number or a text, whichever it can be
read as first.
-/

namespace Telemetry.Config

/-- The directory that files are looked for in: names and contents. -/
abbrev Directory := List (String × String)

inductive Format where
  | json
  | toml
  deriving DecidableEq, Repr, Inhabited

def formats : List (String × Format) := [("toml", .toml), ("json", .json)]

/-- The extension of a file's name: what follows its last point, unless the name begins there. -/
def extension? (path : String) : Option String :=
  let name := (path.toList.reverse.takeWhile (· != '/')).reverse
  let ending := (name.reverse.takeWhile (· != '.')).reverse
  if ending.length + 1 < name.length then some (String.ofList ending) else none

/-- The parts of a path between its slashes, without the empty ones and the steps to the directory
itself. -/
def partsOf (path : String) : List (List Char) :=
  (path.toList.splitOn '/').filter fun part => part != [] && part != ['.']

def shortest (path : String) : String :=
  let root := if path.toList.head? = some '/' then ['/'] else []
  String.ofList (root ++ List.intercalate ['/'] (partsOf path))

/-- Whether a path can only be that of a directory, because nothing but slashes and steps to the
directory itself follows its last part. -/
def namesDirectory (path : String) : Bool :=
  (path.toList.splitOn '/').getLast?.any fun part => part == [] || part == ['.']

/-- The names under which a file may be found: its very name, and that with an extension. A path
that ends in a step upwards is none of a file. -/
def candidates (path : String) : List String :=
  if (partsOf path).getLast?.all (· == ['.', '.']) then []
  else
    let name := shortest path
    let itself := if namesDirectory path then [] else [name]
    itself ++ formats.map fun (ending, _) => s!"{name}.{ending}"

/-- Finds a file: the first of its names under which there is one. -/
def find? (files : Directory) (path : String) : Option (Format × String) := do
  let (name, text) ← (candidates path).findSome? fun name => (files.lookup name).map (name, ·)
  return (← formats.lookup (← extension? name), text)

def Format.parse? (format : Format) (text : String) : Option (List (String × Value)) :=
  let v := match format with
    | .json => Json.parse? text
    | .toml => Toml.parse? text
  match v with
  | some (.table entries) => some entries
  | _ => none

/-! ## The environment -/

/-- What the names of variables begin with, in any case. -/
def lead : String := "bridge__"

def levels : (part : List Char) → List Char → List (List Char)
  | part, '_' :: '_' :: rest => part.reverse :: levels [] rest
  | part, c :: rest => levels (c :: part) rest
  | part, [] => [part.reverse]

def keyOf? (name : String) : Option String :=
  let cs := (small name).toList
  if lead.toList.isPrefixOf cs then
    some (String.intercalate "." ((levels [] (cs.drop lead.length)).map String.ofList))
  else none

def readVariableText (text : String) : Value :=
  match text.toLower with
  | "true" => .bool true
  | "false" => .bool false
  | _ =>
    match Decimal.readInt64? text, Decimal.readFloat? text with
    | some n, _ => .int n
    | none, some x => .float x
    | none, none => .text text

def overlay (environment : List (String × String)) (v : Value) : Value :=
  environment.foldl (fun v (name, text) =>
    match keyOf? name with
    | some key => setPath (readVariableText text) (Path.ofKey key) v
    | none => v) v

/-! ## Loading -/

def standardName : String := "rt-bridge"

/-- The value of the file that is asked for, or of the standard one if it is there. -/
def fileValue? (files : Directory) (path : Option String) : Option Value :=
  match find? files (path.getD standardName) with
  | some (format, text) =>
    (format.parse? text).map fun entries =>
      entries.foldl (fun v (key, entry) => setPath entry (Path.ofKey key) v) (.table [])
  | none => if path.isSome then none else some (.table [])

def load (files : Directory) (path : Option String) (environment : List (String × String)) :
    Except BridgeError BridgeConfig :=
  match fileValue? files path with
  | none => .error .config
  | some v =>
    match read .lenient (overlay environment v) with
    | none => .error .config
    | some config => do
      config.validate
      return config

end Telemetry.Config
