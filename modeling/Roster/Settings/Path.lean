import Roster.Text.Numeral

/-!
# Paths to settings

A path names a place in nested data: names with points between them, and places in lists
between brackets, where a negative place counts from the end.

* `Path.ofText?` reads a path such as `cluster.seeds[0]`.
-/

namespace Roster.Settings

/-- One step of a path. -/
inductive Step
  /-- Into a table. -/
  | name (s : String)
  /-- Into a list. -/
  | place (n : Int)
deriving DecidableEq

/-- A path into nested data. -/
abbrev Path := List Step

namespace Path

/-- Whether a character can stand in a name. -/
def isNameChar (c : Char) : Bool := c.isAlphanum || c == '_' || c == '-'

/-- Reads a name. -/
def readName? (cs : List Char) : Option (Step × List Char) :=
  match cs.takeWhile isNameChar with
  | [] => none
  | name => some (.name (String.ofList name), cs.dropWhile isNameChar)

/-- Whether a character separates words. -/
def isSpace (c : Char) : Bool := c == ' ' || c == '\t'

/-- Reads the digits of a place with a sign. Places have 64 bits. -/
def place? (negative : Bool) (digits : List Char) : Option Step :=
  (Text.decimal? digits).bind fun n =>
    if negative then if n ≤ Nat.pow 2 63 then some (.place (-(n : Int))) else none
    else if n < Nat.pow 2 63 then some (.place n) else none

/-- Reads a place behind its opening bracket. -/
def readPlace? (cs : List Char) : Option (Step × List Char) :=
  let cs := cs.dropWhile isSpace
  let (negative, cs) := match cs with
    | '-' :: cs => (true, cs)
    | cs => (false, cs)
  let (digits, rest) := cs.span Char.isDigit
  match rest.dropWhile isSpace with
  | ']' :: rest => (place? negative digits).map (·, rest)
  | _ => none

/-- Reads the steps behind the first one. -/
def readSteps? : Nat → List Char → Option Path
  | _, [] => some []
  | 0, _ => none
  | fuel + 1, c :: cs =>
    match if c == '.' then readName? cs else if c == '[' then readPlace? cs else none with
    | some (step, rest) => (readSteps? fuel rest).map (step :: ·)
    | none => none

/-- The path that a text names. -/
def ofText? (text : String) : Option Path :=
  match readName? text.toList with
  | some (step, rest) => (readSteps? rest.length rest).map (step :: ·)
  | none => none

/-- The path that a text stands for; one that names no path stands for a single name. -/
def ofText (text : String) : Path := (ofText? text).getD [.name text]

end Path

end Roster.Settings
