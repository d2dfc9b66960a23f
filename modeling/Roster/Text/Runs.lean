import Roster.Text.Numeral

/-!
# Properties of characters, run by run

A property that is constant on long runs of characters is kept as the list of its runs. The
text form of such a list has a word per run: the length of the run in hexadecimal, then
the value on it.

* `Runs.value?` looks a character up; `Runs.ofLines` reads the text form, and `Runs.marked` that
  of a property which a character has or has not.
-/

namespace Roster.Text

/-- The runs of a property in order, each with the number behind its last character. -/
abbrev Runs (α : Type) := List (Nat × α)

namespace Runs

variable {α : Type}

/-- The value of the property at the character with number `n`, if a run holds it. -/
def value? (runs : Runs α) (n : Nat) : Option α :=
  (runs.find? fun r => n < r.1).map Prod.snd

/-- Where the run of the character with number `n` starts, and the value on it. -/
def run? : Nat → Runs α → Nat → Option (Nat × α)
  | _, [], _ => none
  | start, (stop, v) :: runs, n => if n < stop then some (start, v) else run? stop runs n

/-- The length at the front of a word, and what follows it. -/
def cutLength (word : List Char) : Nat × List Char :=
  let (digits, rest) := (word.span fun c => (Percent.digit? c).isSome)
  ((Text.value? 16 digits).getD 0, rest)

/-- The runs that the words describe, the first one starting at `start`. -/
def ofWords (value : List Char → α) : Nat → List (List Char) → Runs α
  | _, [] => []
  | start, w :: ws =>
    let (n, rest) := cutLength w
    (start + n, value rest) :: ofWords value (start + n) ws

/-- The words of a text, which single blanks separate. -/
def words : List Char → List (List Char)
  | [] => []
  | ' ' :: cs => [] :: words cs
  | c :: cs =>
    match words cs with
    | [] => [[c]]
    | w :: ws => (c :: w) :: ws

/-- The runs that some lines describe, the first one starting at `start`. -/
def ofLines (value : List Char → α) (start : Nat) (lines : List String) : Runs α :=
  ofWords value start (lines.flatMap fun l => words l.toList)

/-- The runs that some lines describe which mark those with the property. -/
def marked (lines : List String) : Runs Bool := ofLines (fun cs => !cs.isEmpty) 0 lines

end Runs

end Roster.Text
