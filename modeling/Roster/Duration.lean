import Roster.Text.Numeral

/-!
# Durations

A duration is a number of nanoseconds.

* `Duration.text` writes it in the largest unit of which it has at least one, with the
  fraction that is needed and no more.
-/

namespace Roster

/-- A length of time. -/
structure Duration where
  nanos : Nat
deriving DecidableEq

namespace Duration

/-- The duration of a number of milliseconds. -/
def ofMillis (n : Nat) : Duration := ⟨1000000 * n⟩

/-- The duration of a number of seconds. -/
def ofSeconds (n : Nat) : Duration := ⟨1000000000 * n⟩

/-- The digits of a fraction of `10 ^ places`, without zeros at its end. -/
def fraction (places n : Nat) : List Char :=
  let digits := Text.decimal n
  let padded := List.replicate (places - digits.length) '0' ++ digits
  (padded.reverse.dropWhile (· == '0')).reverse

/-- A number of units of `10 ^ places` nanoseconds. -/
def units (places nanos : Nat) : List Char :=
  let rest := fraction places (nanos % Nat.pow 10 places)
  Text.decimal (nanos / Nat.pow 10 places) ++ if rest.isEmpty then [] else '.' :: rest

/-- The text of a duration. -/
def text (d : Duration) : String :=
  if 1000000000 ≤ d.nanos then String.ofList (units 9 d.nanos ++ ['s'])
  else if 1000000 ≤ d.nanos then String.ofList (units 6 d.nanos ++ ['m', 's'])
  else if 1000 ≤ d.nanos then String.ofList (units 3 d.nanos ++ ['µ', 's'])
  else String.ofList (Text.decimal d.nanos ++ ['n', 's'])

end Duration

end Roster
