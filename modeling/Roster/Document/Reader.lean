import Roster.Text.Numeral

/-!
# Reading a text from its front

A reader takes something off the front of a text, or fails.

* `Reader.peek`, `Reader.take`, `Reader.accept` and `Reader.expect` are the readers that others
  are made of.
* `Reader.run?` reads a whole text.
-/

namespace Roster.Document

/-- Reads something off the front of a text, or fails. -/
abbrev Reader := StateT (List Char) Option

namespace Reader

/-- Fails. -/
def fail {α : Type} : Reader α := fun _ => none

/-- Fails unless something is the case. -/
def require (b : Bool) : Reader Unit := if b then pure () else fail

/-- What a value stands for, or a failure if it stands for nothing. -/
def ofOption {α : Type} (a : Option α) : Reader α := fun cs => a.map fun a => (a, cs)

/-- The next character, which stays. -/
def peek : Reader (Option Char) := fun cs => some (cs.head?, cs)

/-- Takes the next character. -/
def next : Reader Char
  | [] => none
  | c :: cs => some (c, cs)

/-- Takes all characters up to one that is not of a class. -/
def take (p : Char → Bool) : Reader (List Char) := fun cs =>
  some (cs.takeWhile p, cs.dropWhile p)

/-- Takes so many characters. -/
def takeN (n : Nat) : Reader (List Char) := fun cs =>
  if cs.length < n then none else some (cs.take n, cs.drop n)

/-- Takes a text if it is next, and tells whether it is. -/
def accept (w : String) : Reader Bool := fun cs =>
  if w.toList.isPrefixOf cs then some (true, cs.drop w.length) else some (false, cs)

/-- Takes a text that has to be next. -/
def expect (w : String) : Reader Unit := do
  require (← accept w)

/-- Whether the text has ended. -/
def atEnd : Reader Bool := fun cs => some (cs.isEmpty, cs)

/-- How many steps a reader needs at most that takes at least one character in every other one. -/
def steps : Reader Nat := fun cs => some (2 * cs.length + 8, cs)

/-- The character with a number that is written in so many digits of base sixteen. -/
def numbered (digits : Nat) : Reader Char := do
  let ds ← takeN digits
  ofOption ((Text.value? 16 ds).bind fun k =>
    if h : k.isValidChar then some (Char.ofNatAux k h) else none)

/-- Reads a whole text. -/
def run? {α : Type} (r : Reader α) (cs : List Char) : Option α :=
  match r cs with
  | some (a, []) => some a
  | _ => none

end Reader

end Roster.Document
