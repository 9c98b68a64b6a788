/-!
# Data types

The kind of value a variable holds. A wire carries the type as a one-byte tag (`ofTag?_tag`),
configurations spell it in lower case, and reports in mixed case. Types of fixed width have a size
of their own; texts and custom values take the size they are registered with.
-/

namespace Telemetry

inductive DataType where
  /-- One byte, zero for false. -/
  | bool
  | uint8
  | uint16
  | uint32
  | int16
  | int32
  | int64
  | real32
  | real64
  /-- A text field of a registered size. -/
  | text
  /-- Bytes without a meaning here, of a registered size. -/
  | custom
  deriving DecidableEq, Repr, Inhabited

namespace DataType

def all : List DataType :=
  [bool, uint8, uint16, uint32, int16, int32, int64, real32, real64, text, custom]

def tag : DataType → UInt8
  | bool => 1
  | uint8 => 2
  | uint16 => 3
  | uint32 => 4
  | int16 => 5
  | int32 => 6
  | int64 => 7
  | real32 => 8
  | real64 => 9
  | text => 10
  | custom => 255

def ofTag? (tag : UInt8) : Option DataType := all.find? fun t => t.tag == tag

@[simp] theorem ofTag?_tag (t : DataType) : ofTag? t.tag = some t := by cases t <;> rfl

/-- A tag names a type exactly when it is that type's own. -/
theorem ofTag?_eq_some_iff {tag : UInt8} {t : DataType} : ofTag? tag = some t ↔ tag = t.tag := by
  constructor
  · intro h
    have := List.find?_some h
    simpa using (beq_iff_eq.1 this).symm
  · rintro rfl
    exact ofTag?_tag t

/-- The size of a value, where the type fixes it. -/
def fixedSize? : DataType → Option Nat
  | bool | uint8 => some 1
  | uint16 | int16 => some 2
  | uint32 | int32 | real32 => some 4
  | int64 | real64 => some 8
  | text | custom => none

def name : DataType → String
  | bool => "Bool"
  | uint8 => "UInt8"
  | uint16 => "UInt16"
  | uint32 => "UInt32"
  | int16 => "Int16"
  | int32 => "Int32"
  | int64 => "Int64"
  | real32 => "Real32"
  | real64 => "Real64"
  | text => "String"
  | custom => "Custom"

def configName (t : DataType) : String := t.name.toLower

end DataType

end Telemetry
