import Roster.Text.Numeral

/-!
# Times in logs

* `stamp` writes a time as a day, a time of day and the microseconds.
-/

namespace Roster.Log

/-- The year, month and day after a number of days from the beginning of 1970. Years are counted
from March on, so that a leap day is the last one of its year. -/
def civil (days : Nat) : Nat × Nat × Nat :=
  let days := days + 719468
  let era := days / 146097
  let day := days % 146097
  let year := (day - day / 1460 + day / 36524 - day / 146096) / 365
  let rest := day - (365 * year + year / 4 - year / 100)
  let month := (5 * rest + 2) / 153
  let first := (153 * month + 2) / 5
  let year := year + era * 400
  if month < 10 then (year, month + 3, rest - first + 1)
  else (year + 1, month - 9, rest - first + 1)

/-- A number with at least so many digits. -/
def padded (width n : Nat) : String :=
  let ds := Text.decimal n
  String.ofList (List.replicate (width - ds.length) '0' ++ ds)

/-- The time after a number of nanoseconds from the beginning of 1970. -/
def stamp (nanos : Nat) : String :=
  let micros := nanos / 1000
  let seconds := micros / 1000000
  let (year, month, day) := civil (seconds / 86400)
  let date := [padded 4 year, padded 2 month, padded 2 day]
  let clock := [padded 2 (seconds / 3600 % 24), padded 2 (seconds / 60 % 60),
    padded 2 (seconds % 60)]
  "-".intercalate date ++ "T" ++ ":".intercalate clock ++ "." ++
    padded 6 (micros % 1000000) ++ "Z"

example : stamp 0 = "1970-01-01T00:00:00.000000Z" := by decide +kernel

example : stamp 951782400123456789 = "2000-02-29T00:00:00.123456Z" := by decide +kernel

end Roster.Log
