import Roster.Document.Data

/-!
# Moving through a text in YAML

A cursor is what is left of a text together with the column in which it starts, since columns
tell how nodes are nested.

* `Reader` reads something off a cursor, or fails.
* `skipSpaces` stays on the line; `skipLines` goes on to the next character that counts.
-/

namespace Roster.Document.Yaml

/-- What is left of a text. -/
structure Cursor where
  rest : List Char
  column : Nat
  /-- The nodes that were given names. -/
  anchors : List (String × Data)

/-- Reads something off a cursor. -/
abbrev Reader := StateT Cursor Option

/-- White space within a line. -/
def isSpace (c : Char) : Bool := c == ' ' || c == '\t'

/-- Whether a text starts with white space or the end of a line, or has ended. -/
def startsBlank : List Char → Bool
  | [] => true
  | c :: _ => isSpace c || c == '\n'

/-- Whether a character is one of those that structure lists and tables in brackets. -/
def isFlowMark (c : Char) : Bool := c == ',' || c == '[' || c == ']' || c == '\x7b' || c == '\x7d'

namespace Cursor

/-- The cursor behind the next character. -/
def next (p : Cursor) : Cursor :=
  match p.rest with
  | [] => p
  | c :: cs => { p with rest := cs, column := if c == '\n' then 0 else p.column + 1 }

/-- The cursor behind so many characters of a line. -/
def drop (n : Nat) (p : Cursor) : Cursor :=
  { p with rest := p.rest.drop n, column := p.column + n }

/-- The cursor further on, where `rest` is left. -/
def moveTo (rest : List Char) (p : Cursor) : Cursor :=
  let passed := p.rest.take (p.rest.length - rest.length)
  let line := passed.reverse.takeWhile (· != '\n')
  { p with
    rest := rest
    column := if passed.contains '\n' then line.length else p.column + passed.length }

/-- Whether the text has ended. -/
def atEnd (p : Cursor) : Bool := p.rest.isEmpty

/-- Whether a mark of three characters stands alone at the start of a line. -/
def atMark (c : Char) (p : Cursor) : Bool :=
  p.column == 0 && p.rest.take 3 == [c, c, c] && startsBlank (p.rest.drop 3)

/-- Whether a document begins or ends here, or the text has ended. -/
def atBoundary (p : Cursor) : Bool := p.atEnd || p.atMark '-' || p.atMark '.'

/-- Whether a mark with white space behind it is next. -/
def atIndicator (c : Char) (p : Cursor) : Bool :=
  match p.rest with
  | d :: cs => d == c && startsBlank cs
  | [] => false

end Cursor

/-- Fails. -/
def refuse {α : Type} : Reader α := fun _ => none

/-- Fails unless something is the case. -/
def require (b : Bool) : Reader Unit := if b then pure () else refuse

/-- Moves on by so many characters of a line. -/
def dropChars (n : Nat) : Reader Unit := modify (Cursor.drop n)

/-- Takes characters of a class off a line. -/
def takeChars (p : Char → Bool) : Reader (List Char) := fun cur =>
  let cs := cur.rest.takeWhile fun c => p c && c != '\n'
  some (cs, cur.drop cs.length)

/-- Passes over white space within a line. -/
def skipSpaces : Reader Unit := do
  let _ ← takeChars isSpace

/-- What is left behind white space, comments and the ends of lines. Behind the end of a line,
nothing but spaces may stand in front of what counts if tabs are refused. -/
def skipFrom (tabs : Bool) : Nat → List Char → Option (List Char × Nat)
  | column, [] => some ([], column)
  | _, '\n' :: cs => skipLine true 0 cs
  | _, '#' :: cs => skipComment cs
  | column, c :: cs => if isSpace c then skipFrom tabs (column + 1) cs else some (c :: cs, column)
where
  /-- What is left behind the end of a line. -/
  skipLine (clean : Bool) : Nat → List Char → Option (List Char × Nat)
    | column, [] => some ([], column)
    | _, '\n' :: cs => skipLine true 0 cs
    | _, '#' :: cs => skipComment cs
    | column, ' ' :: cs => skipLine clean (column + 1) cs
    | column, '\t' :: cs => skipLine false (column + 1) cs
    | column, c :: cs => if clean || tabs then some (c :: cs, column) else none
  /-- What is left behind a comment. -/
  skipComment : List Char → Option (List Char × Nat)
    | [] => some ([], 0)
    | '\n' :: cs => skipLine true 0 cs
    | _ :: cs => skipComment cs

/-- Goes on to the next character that counts. -/
def skipLines (tabs : Bool) : Reader Unit := fun cur =>
  (skipFrom tabs cur.column cur.rest).map fun (rest, column) =>
    ((), { cur with rest := rest, column := column })

/-- Whether nothing but a comment follows on the line. -/
def atLineEnd : Reader Bool := do
  return match (← get).rest with
    | [] => true
    | c :: _ => c == '\n' || c == '#'

/-- The next character. -/
def peek : Reader (Option Char) := do return (← get).rest.head?

end Roster.Document.Yaml
