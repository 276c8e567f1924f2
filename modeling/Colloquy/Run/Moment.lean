/-!
# Moments

A moment is a number of seconds since the beginning of 1970 and a number of nanoseconds.
It is written as a date and a time of day, with as many digits of the fraction as it
needs in groups of three.
-/

namespace Colloquy

structure Moment where
  seconds : Nat
  nanoseconds : Nat := 0
deriving DecidableEq, Repr

namespace Moment

/-- The year, the month and the day of a number of days since the beginning of 1970.
Years are counted from March on, so that the leap day is the last. -/
def date (days : Nat) : Nat × Nat × Nat :=
  let z := days + 719468
  let era := z / 146097
  let dayOfEra := z % 146097
  let yearOfEra := (dayOfEra - dayOfEra / 1460 + dayOfEra / 36524 - dayOfEra / 146096) / 365
  let dayOfYear := dayOfEra - (365 * yearOfEra + yearOfEra / 4 - yearOfEra / 100)
  let shifted := (5 * dayOfYear + 2) / 153
  let day := dayOfYear - (153 * shifted + 2) / 5 + 1
  let month := if shifted < 10 then shifted + 3 else shifted - 9
  (yearOfEra + era * 400 + (if month <= 2 then 1 else 0), month, day)

/-- A number with at least `width` digits. -/
def padded (width n : Nat) : String :=
  let digits := toString n
  String.ofList (List.replicate (width - digits.length) '0') ++ digits

def fraction (nanoseconds : Nat) : String :=
  if nanoseconds == 0 then ""
  else if nanoseconds % 1000000 == 0 then "." ++ padded 3 (nanoseconds / 1000000)
  else if nanoseconds % 1000 == 0 then "." ++ padded 6 (nanoseconds / 1000)
  else "." ++ padded 9 nanoseconds

def text (m : Moment) : String :=
  let (year, month, day) := date (m.seconds / 86400)
  let time := m.seconds % 86400
  padded 4 year ++ "-" ++ padded 2 month ++ "-" ++ padded 2 day ++ "T" ++
    padded 2 (time / 3600) ++ ":" ++ padded 2 (time / 60 % 60) ++ ":" ++ padded 2 (time % 60) ++
    fraction m.nanoseconds ++ "Z"

end Moment
end Colloquy
