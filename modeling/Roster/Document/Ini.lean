import Roster.Document.Data
import Roster.Document.Reader
import Roster.Text.Trim

/-!
# Documents in INI

A document has a line for each name that is given a text, and a header in front of each section.
Names in front of the first header are given to the whole; the others make up a table for their
section.

* `Ini.document?` is the data of a text; all of it are texts.
-/

namespace Roster.Document.Ini

open Reader

/-- The character that stands behind a backslash. -/
def escaped (c : Char) : Char :=
  match c with
  | '0' => '\x00'
  | 'a' => '\x07'
  | 'b' => '\x08'
  | 't' => '\t'
  | 'r' => '\r'
  | 'n' => '\n'
  | _ => c

/-- Reads a text up to a character of a class, which stays, or perhaps up to the end; `acc` is
what came before, last character first. -/
def readUntil (stops : Char → Bool) (toEnd : Bool) : Nat → List Char → Reader (List Char)
  | 0, _ => fail
  | fuel + 1, acc => do
    match ← peek with
    | none =>
      require toEnd
      return acc.reverse
    | some c =>
      if stops c then return acc.reverse
      let _ ← next
      if c == '\\' then
        match ← next with
        | '\n' => readUntil stops toEnd fuel acc
        | 'x' => readUntil stops toEnd fuel ((← numbered 4) :: acc)
        | e => readUntil stops toEnd fuel (escaped e :: acc)
      else readUntil stops toEnd fuel (c :: acc)

/-- Whether a character ends a line. -/
def isBreak (c : Char) : Bool := c == '\n' || c == '\r'

/-- White space within a line. -/
def isSpace (c : Char) : Bool := Text.isBlank c && !isBreak c

/-- Reads what a name is given: texts in quotes, and then the rest of the line. White space is
left out at the end of the line, and at its front if this is the `first` part. -/
def readGiven (fuel : Nat) : Nat → Bool → Reader (List Char)
  | 0, _ => fail
  | n + 1, first => do
    match ← peek with
    | none => return []
    | some c =>
      if c == '"' || c == '\'' then
        let _ ← next
        let cs ← readUntil (· == c) false fuel []
        let _ ← next
        return cs ++ (← readGiven fuel n false)
      else
        let cs ← readUntil isBreak true fuel []
        return if first then Text.trim cs else (cs.reverse.dropWhile Text.isBlank).reverse

/-- A section: its name, if it has one, and what was given in it, the last one first. -/
abbrev Section := Option (List Char) × List (String × Data)

/-- Passes over white space, and tells whether the next character is the first one on its line.
`fresh` tells so of the white space. -/
def skipBlank (fresh : Bool) : Reader Bool := do
  let cs ← take Text.isBlank
  return match cs.getLast? with
    | some c => c == '\n'
    | none => fresh

/-- Reads the rest of a document; `done` are the sections before, the last one first. -/
def readSections : Nat → Bool → Section → List Section → Reader (List Section)
  | 0, _, _, _ => fail
  | fuel + 1, fresh, current, done => do
    let fresh ← skipBlank fresh
    match ← peek with
    | none => return (current :: done).reverse
    | some c =>
      if c == ';' || c == '#' then
        require fresh
        let _ ← take (· != '\n')
        let fresh ← accept "\n"
        readSections fuel fresh current done
      else if c == '[' then
        let _ ← next
        let name ← readUntil (· == ']') false (← steps) []
        let _ ← next
        readSections fuel false (some (Text.trim name), []) (current :: done)
      else
        let name ← readUntil (fun c => c == '=' || c == ':') false (← steps) []
        let name := Text.trim name
        require (!name.isEmpty)
        let _ ← next
        let _ ← take isSpace
        let steps ← steps
        let cs ← readGiven steps steps true
        let given := (String.ofList name, Data.text (String.ofList cs))
        readSections fuel false (current.1, given :: current.2) done

/-- The data of a section within the whole. -/
def sectionData (s : Section) : List (String × Data) :=
  match s.1 with
  | none => s.2.reverse
  | some name => [(String.ofList name, .table s.2.reverse)]

/-- The data of a text. -/
def document? (cs : List Char) : Option Data :=
  (run? (do readSections (← steps) true (none, []) []) cs).map fun ss =>
    .table (ss.flatMap sectionData)

end Roster.Document.Ini
