import Roster.Document.Reader
import Roster.Document.Toml.Scalar
import Roster.Document.Toml.Table

/-!
# Documents in TOML

A document has a line for each header and for each name that is given data.

* `Toml.document?` is the data of a text.
-/

namespace Roster.Document.Toml

open Reader

/-! ### Between the parts of a line -/

/-- White space within a line. -/
def isSpace (c : Char) : Bool := c == ' ' || c == '\t'

/-- Whether a character can stand in a comment or in quotes. -/
def isPrintable (c : Char) : Bool := c == '\t' || (0x20 ≤ c.toNat && c.toNat != 0x7F)

/-- Passes over white space within a line. -/
def skipSpaces : Reader Unit := do
  let _ ← take isSpace

/-- Passes over a comment, if there is one. -/
def skipComment : Reader Unit := do
  if (← peek) == some '#' then
    let _ ← take isPrintable

/-- Takes the end of a line if it is next, and tells whether it is. -/
def acceptBreak : Reader Bool := do
  if ← accept "\n" then return true else accept "\r\n"

/-- Passes over white space, comments and the ends of lines. -/
def skipLines : Nat → Reader Unit
  | 0 => pure ()
  | fuel + 1 => do
    skipSpaces
    skipComment
    if ← acceptBreak then skipLines fuel

/-- Passes over all up to what counts next. -/
def skipAll : Reader Unit := do skipLines (← steps)

/-! ### Texts -/

/-- Reads the character that a letter behind a backslash stands for. -/
def readEscape : Reader Char := do
  match ← next with
  | 'b' => return '\x08'
  | 't' => return '\t'
  | 'n' => return '\n'
  | 'f' => return '\x0c'
  | 'r' => return '\r'
  | 'e' => return '\x1b'
  | '"' => return '"'
  | '\\' => return '\\'
  | 'x' => numbered 2
  | 'u' => numbered 4
  | 'U' => numbered 8
  | _ => fail

/-- Reads a text on one line up to its closing quote; `acc` is what came before, last character
first. Backslashes count only if `escapes`. -/
def readLineText (quote : Char) (escapes : Bool) : Nat → List Char → Reader String
  | 0, _ => fail
  | fuel + 1, acc => do
    let c ← next
    if c == quote then return String.ofList acc.reverse
    else if c == '\\' && escapes then
      readLineText quote escapes fuel ((← readEscape) :: acc)
    else
      require (isPrintable c)
      readLineText quote escapes fuel (c :: acc)

/-- Passes over the end of a line behind a backslash, and over all white space behind it. -/
def skipJoint : Nat → Reader Unit
  | 0 => pure ()
  | fuel + 1 => do
    skipSpaces
    if ← acceptBreak then skipJoint fuel

/-- Whether nothing but white space is left on the line. -/
def atJoint : Reader Bool := fun cs =>
  some (match cs.dropWhile isSpace with
    | '\n' :: _ => true
    | '\r' :: '\n' :: _ => true
    | _ => false, cs)

/-- Reads a text up to three closing quotes, in front of which there may be one or two more. -/
def readLongText (quote : Char) (escapes : Bool) : Nat → List Char → Reader String
  | 0, _ => fail
  | fuel + 1, acc => do
    if ← acceptBreak then readLongText quote escapes fuel ('\n' :: acc)
    else
      let quotes ← take (· == quote)
      if 3 ≤ quotes.length then
        require (quotes.length ≤ 5)
        return String.ofList (quotes.drop 3 ++ acc).reverse
      else if !quotes.isEmpty then readLongText quote escapes fuel (quotes ++ acc)
      else
        let c ← next
        if c == '\\' && escapes then
          if ← atJoint then
            skipJoint fuel
            readLongText quote escapes fuel acc
          else readLongText quote escapes fuel ((← readEscape) :: acc)
        else
          require (isPrintable c)
          readLongText quote escapes fuel (c :: acc)

/-- Reads a text in quotes of a kind, which may be long ones. -/
def readQuoted (quote : Char) (escapes long : Bool) : Reader String := do
  let fuel ← steps
  let three := String.ofList [quote, quote, quote]
  if (← accept three) then
    require long
    let _ ← acceptBreak
    readLongText quote escapes fuel []
  else
    let _ ← next
    readLineText quote escapes fuel []

/-! ### Names -/

/-- Whether a character can stand in a name without quotes. -/
def isNameChar (c : Char) : Bool := c.isAlphanum || c == '_' || c == '-'

/-- Reads one part of a name. -/
def readPart : Reader String := do
  match ← peek with
  | some '"' => readQuoted '"' true false
  | some '\'' => readQuoted '\'' false false
  | _ =>
    let cs ← take isNameChar
    require (!cs.isEmpty)
    return String.ofList cs

/-- Reads the parts of a name, with points between them. -/
def readParts : Nat → Reader (List String)
  | 0 => fail
  | fuel + 1 => do
    skipSpaces
    let k ← readPart
    skipSpaces
    if ← accept "." then return k :: (← readParts fuel) else return [k]

/-- Reads a name. -/
def readName : Reader (List String) := do readParts (← steps)

/-! ### Data -/

/-- Whether a character can stand in a word. -/
def isWordChar (c : Char) : Bool := isNameChar c || c == '+' || c == '.' || c == ':'

/-- Reads a word. A time of day may follow a day behind a space. -/
def readWord : Reader Data := do
  let w ← take isWordChar
  if isDay w && (← atTime) then
    let _ ← next
    let time ← take isWordChar
    ofOption (scalar? (w ++ ' ' :: time))
  else ofOption (scalar? w)
where
  /-- Whether a space and a digit are next. -/
  atTime : Reader Bool := fun cs =>
    some (match cs with
      | ' ' :: c :: _ => c.isDigit
      | _ => false, cs)

mutual

/-- Reads data. -/
def readData : Nat → Reader Data
  | 0 => fail
  | fuel + 1 => do
    match ← peek with
    | some '"' => return .text (← readQuoted '"' true true)
    | some '\'' => return .text (← readQuoted '\'' false true)
    | some '[' =>
      let _ ← next
      readItems fuel []
    | some '\x7b' =>
      let _ ← next
      readMembers fuel []
    | _ => readWord

/-- Reads items up to the closing bracket; `items` are those before, the last one first. -/
def readItems : Nat → List Data → Reader Data
  | 0, _ => fail
  | fuel + 1, items => do
    skipAll
    if ← accept "]" then return .list items.reverse
    let d ← readData fuel
    skipAll
    if ← accept "," then readItems fuel (d :: items)
    else
      expect "]"
      return .list (d :: items).reverse

/-- Reads members up to the closing brace; `es` are those before. -/
def readMembers : Nat → Entries → Reader Data
  | 0, _ => fail
  | fuel + 1, es => do
    skipAll
    if ← accept "\x7d" then return .table (entriesData es)
    let k ← readName
    expect "="
    skipSpaces
    let d ← readData fuel
    let es ← ofOption (give? d k es)
    skipAll
    if ← accept "," then readMembers fuel es
    else
      expect "\x7d"
      return .table (entriesData es)

end

/-! ### Lines -/

/-- Reads a header behind its first bracket. -/
def readHeader (es : Entries) : Reader (List String × Entries) := do
  let listed ← accept "["
  let path ← readName
  expect (if listed then "]]" else "]")
  return (path, ← ofOption (open? listed path es))

/-- Reads a name and what it is given, in the table at the end of a path. -/
def readGiven (path : List String) (es : Entries) : Reader Entries := do
  let k ← readName
  expect "="
  skipSpaces
  let d ← readData (← steps)
  ofOption (within? (give? d k) path es)

/-- Reads lines up to the end; `path` is that of the last header. -/
def readLines : Nat → List String → Entries → Reader Entries
  | 0, _, _ => fail
  | fuel + 1, path, es => do
    skipAll
    if ← atEnd then return es
    let (path, es) ← if ← accept "[" then readHeader es
      else do pure (path, ← readGiven path es)
    skipSpaces
    skipComment
    if ← atEnd then return es
    require (← acceptBreak)
    readLines fuel path es

/-- The data of a text. -/
def document? (cs : List Char) : Option Data :=
  (run? (do readLines (← steps) [] []) cs).map fun es => .table (entriesData es)

end Roster.Document.Toml
