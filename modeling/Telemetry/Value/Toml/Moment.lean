import Telemetry.Clock.Calendar
import Telemetry.Value.Json.Reading

/-!
# Dates and times of TOML

A date, a time of day, or both with a letter or a blank between them and perhaps a distance from
universal time behind them. Such a moment is a text to all that reads the value: that of the moment
in its standard form, with a `T` between date and time and no more places of a second than need be.
-/

namespace Telemetry.Toml

open Clock (Date padded)
open Json (Rest)

/-- A time of day; nanoseconds count the fraction of a second. -/
structure DayTime where
  hour : Nat
  minute : Nat
  second : Nat
  nanoseconds : Nat
  deriving DecidableEq, Repr, Inhabited

def daysInMonth (year month : Nat) : Nat :=
  if month = 2 then if year % 4 = 0 ∧ (year % 100 ≠ 0 ∨ year % 400 = 0) then 29 else 28
  else if [4, 6, 9, 11].contains month then 30
  else 31

/-! ## Reading -/

def twoDigits? (low high : Nat) : Rest → Option (Nat × Rest)
  | a :: b :: rest => do
    let n := 10 * (← Decimal.digit? a) + (← Decimal.digit? b)
    if low ≤ n ∧ n ≤ high then return (n, rest) else none
  | _ => none

def after? (c : Char) : Rest → Option Rest
  | d :: rest => if d = c then some rest else none
  | [] => none

/-- A date: four digits of the year, and two each of the month and the day. -/
def date? (cs : Rest) : Option (Date × Rest) := do
  let (century, cs) ← twoDigits? 0 99 cs
  let (year, cs) ← twoDigits? 0 99 cs
  let year := 100 * century + year
  let (month, cs) ← twoDigits? 1 12 (← after? '-' cs)
  let (day, cs) ← twoDigits? 1 (daysInMonth year month) (← after? '-' cs)
  return (⟨year, month, day⟩, cs)

/-- The nanoseconds behind a point; places behind the ninth do not count. -/
def nanoseconds? : Rest → Option (Nat × Rest)
  | '.' :: rest =>
    let ds := rest.takeWhile Char.isDigit
    let places := ds.take 9 ++ List.replicate (9 - ds.length) '0'
    if ds.isEmpty then none else some (Decimal.ofDigits 0 places, rest.drop ds.length)
  | rest => some (0, rest)

/-- A time of day; a minute may have a leap second. -/
def dayTime? (cs : Rest) : Option (DayTime × Rest) := do
  let (hour, cs) ← twoDigits? 0 23 cs
  let (minute, cs) ← twoDigits? 0 59 (← after? ':' cs)
  let (second, cs) ← twoDigits? 0 60 (← after? ':' cs)
  let (nanoseconds, cs) ← nanoseconds? cs
  return (⟨hour, minute, second, nanoseconds⟩, cs)

/-- A distance from universal time: none, or so many minutes before or after it. -/
inductive Distance where
  | zero
  | minutes (before : Bool) (n : Nat)
  deriving DecidableEq, Repr, Inhabited

/-- The distance from universal time in front, if there is one. It is less than a day. -/
def distance? : Rest → Option (Option Distance × Rest)
  | [] => some (none, [])
  | c :: rest =>
    if c = 'Z' ∨ c = 'z' then some (some .zero, rest)
    else if c = '+' ∨ c = '-' then do
      let (hour, cs) ← twoDigits? 0 23 rest
      let (minute, cs) ← twoDigits? 0 59 (← after? ':' cs)
      return (some (.minutes (c == '-') (60 * hour + minute)), cs)
    else some (none, c :: rest)

/-- Whether a character may stand between a date and a time. -/
def isBetween (c : Char) : Bool := c == 'T' || c == 't' || c == ' '

/-! ## The standard form -/

def dateText (d : Date) : String :=
  padded 4 d.year ++ "-" ++ padded 2 d.month ++ "-" ++ padded 2 d.day

/-- The text of a time of day, without zeros at the end of a fraction. -/
def DayTime.text (t : DayTime) : String :=
  let places := ((padded 9 t.nanoseconds).toList.reverse.dropWhile (· == '0')).reverse
  padded 2 t.hour ++ ":" ++ padded 2 t.minute ++ ":" ++ padded 2 t.second ++
    (if places.isEmpty then "" else "." ++ String.ofList places)

def Distance.text : Distance → String
  | .zero => "Z"
  | .minutes before n =>
    (if before && n != 0 then "-" else "+") ++ padded 2 (n / 60) ++ ":" ++ padded 2 (n % 60)

def timeText (t : DayTime) (d : Option Distance) : String :=
  "T" ++ t.text ++ (d.map Distance.text).getD ""

/-! ## Moments -/

def timeBehindDate? : Rest → Option (String × Rest)
  | c :: rest => do
    if !isBetween c then none
    let (time, cs) ← dayTime? rest
    let (distance, cs) ← distance? cs
    return (timeText time distance, cs)
  | [] => none

def moment? (cs : Rest) : Option (String × Rest) :=
  match date? cs with
  | some (date, rest) =>
    let (time, rest) := (timeBehindDate? rest).getD ("", rest)
    some (dateText date ++ time, rest)
  | none => (dayTime? cs).map fun (time, rest) => (time.text, rest)

def momentOf? (s : String) : Option String :=
  match moment? s.toList with
  | some (text, []) => some text
  | _ => none

example : moment? "1979-05-27 07:32:00.500-00:00 ".toList
    = some ("1979-05-27T07:32:00.5+00:00", [' ']) := by decide +kernel
example : moment? "1900-02-29".toList = none := by decide +kernel
example : momentOf? "1979-05-27t23:00:00z" = some "1979-05-27T23:00:00Z" := by decide +kernel
example : momentOf? "1979-05-27T" = none ∧ momentOf? "24:00:00" = none := by decide +kernel

end Telemetry.Toml
