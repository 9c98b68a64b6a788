/-!
# Values of configuration files

What a configuration file or an environment variable can say before it is known what it is meant
for. The keys of a table are distinct, and setting one again replaces its value.
-/

namespace Telemetry

/-- A value without a meaning yet. -/
inductive Value where
  | null
  | bool (b : Bool)
  | int (n : Int)
  | float (x : Float)
  | text (s : String)
  | array (items : List Value)
  | table (entries : List (String × Value))
  deriving Inhabited

namespace Value

/-- Sets a key of a table, in its old place if it was there before. -/
def insert {α : Type} (entries : List (String × α)) (key : String) (v : α) : List (String × α) :=
  if entries.any fun (k, _) => k == key then
    entries.map fun (k, old) => if k == key then (k, v) else (k, old)
  else entries ++ [(key, v)]

def get? : Value → String → Option Value
  | table entries, key => entries.lookup key
  | _, _ => none

end Value

end Telemetry
