import Telemetry.Clock

/-!
# Calendar dates

The date and the time of day of a moment, in the Gregorian calendar and without a time zone. Years
are counted from March, so that a leap day is the last day of its year, and in eras of 400 years,
each of which has the same number of days.
-/

namespace Telemetry.Clock

structure Date where
  year : Nat
  month : Nat
  day : Nat
  deriving DecidableEq, Repr, Inhabited

def daysPerEra : Nat := 146097

/-- The days from the first of March of the year zero to the first of January 1970. -/
def epochDay : Nat := 719468

/-- The date of a day, counted from the first of January 1970. -/
def Date.ofDays (days : Nat) : Date :=
  let era := (days + epochDay) / daysPerEra
  let dayOfEra := (days + epochDay) % daysPerEra
  let yearOfEra := (dayOfEra - dayOfEra / 1460 + dayOfEra / 36524 - dayOfEra / 146096) / 365
  let dayOfYear := dayOfEra - (365 * yearOfEra + yearOfEra / 4 - yearOfEra / 100)
  let monthFromMarch := (5 * dayOfYear + 2) / 153
  let day := dayOfYear - (153 * monthFromMarch + 2) / 5 + 1
  let month := if monthFromMarch < 10 then monthFromMarch + 3 else monthFromMarch - 9
  ⟨era * 400 + yearOfEra + (if month ≤ 2 then 1 else 0), month, day⟩

def padded (width n : Nat) : String :=
  let digits := Nat.toDigits 10 n
  String.ofList (List.replicate (width - digits.length) '0' ++ digits)

/-- The fraction of a second, to three, six or nine places as need be. -/
def fractionText (ns : Nat) : String :=
  if ns = 0 then ""
  else if ns % 1000000 = 0 then "." ++ padded 3 (ns / 1000000)
  else if ns % 1000 = 0 then "." ++ padded 6 (ns / 1000)
  else "." ++ padded 9 ns

/-- The text of a moment: date, time of day to the last place needed, and a `Z`. -/
def text (now : Nat) : String :=
  let seconds := now / 1000000000
  let date := Date.ofDays (seconds / 86400)
  let time := seconds % 86400
  padded 4 date.year ++ "-" ++ padded 2 date.month ++ "-" ++ padded 2 date.day ++ "T" ++
    padded 2 (time / 3600) ++ ":" ++ padded 2 (time / 60 % 60) ++ ":" ++ padded 2 (time % 60) ++
    fractionText (now % 1000000000) ++ "Z"

example : Date.ofDays 0 = ⟨1970, 1, 1⟩ := by decide
example : Date.ofDays 11016 = ⟨2000, 2, 29⟩ := by decide
example : Date.ofDays 47540 = ⟨2100, 2, 28⟩ ∧ Date.ofDays 47541 = ⟨2100, 3, 1⟩ := by decide

end Telemetry.Clock
