import Roster.Document.Data
import Roster.Document.Reader
import Roster.Number.Decimal
import Roster.Text.Pieces

/-!
# Documents in RON

Tables are written with braces, or with parentheses if their names are plain words. Parentheses
may also hold a list. A name in front of parentheses does not count.

* `Ron.document?` is the data of a text.
-/

namespace Roster.Document.Ron

open Reader

/-! ### Between the parts of a text -/

/-- White space. -/
def isSpace (c : Char) : Bool := c == ' ' || c == '\t' || c == '\n' || c == '\r'

/-- What is left behind long comments, so many of which stand inside each other. -/
def behindComments? : Nat → List Char → Option (List Char)
  | 0, cs => some cs
  | _, [] => none
  | _, [_] => none
  | depth + 1, '*' :: '/' :: cs => behindComments? depth cs
  | depth, '/' :: '*' :: cs => behindComments? (depth + 1) cs
  | depth, _ :: c :: cs => behindComments? depth (c :: cs)

/-- Passes over white space and comments. -/
def skip : Nat → Reader Unit
  | 0 => pure ()
  | fuel + 1 => do
    let _ ← take isSpace
    if ← accept "//" then
      let _ ← take (· != '\n')
      skip fuel
    else if ← accept "/*" then
      fun cs => (behindComments? 1 cs).map fun cs => ((), cs)
      skip fuel

/-- Passes over all up to what counts next. -/
def skipAll : Reader Unit := do skip (← steps)

/-! ### Texts -/

/-- Reads the character that stands behind a backslash. -/
def readEscape : Reader Char := do
  match ← next with
  | '\'' => return '\''
  | '"' => return '"'
  | '\\' => return '\\'
  | 'n' => return '\n'
  | 'r' => return '\r'
  | 't' => return '\t'
  | '0' => return '\x00'
  | 'x' => numbered 2
  | 'u' =>
    expect "\x7b"
    let ds ← take (· != '\x7d')
    expect "\x7d"
    require (!ds.isEmpty && ds.length ≤ 6)
    ofOption ((Text.value? 16 ds).bind fun k =>
      if h : k.isValidChar then some (Char.ofNatAux k h) else none)
  | _ => fail

/-- Reads a text up to its closing quote; `acc` is what came before, last character first. -/
def readText : Nat → List Char → Reader Data
  | 0, _ => fail
  | fuel + 1, acc => do
    let c ← next
    if c == '"' then return .text (String.ofList acc.reverse)
    else if c == '\\' then readText fuel ((← readEscape) :: acc)
    else readText fuel (c :: acc)

/-- Reads a text in which backslashes mean nothing, up to a quote with so many signs behind it. -/
def readRaw (closing : String) : Nat → List Char → Reader Data
  | 0, _ => fail
  | fuel + 1, acc => do
    if ← accept closing then return .text (String.ofList acc.reverse)
    else readRaw closing fuel ((← next) :: acc)

/-- Reads a character in quotes; it counts as a text. -/
def readChar : Reader Data := do
  let c ← next
  let c ← if c == '\\' then readEscape else pure c
  expect "'"
  return .text (String.ofList [c])

/-! ### Numbers and words -/

/-- Whether a character can stand in a name. -/
def isNameChar (c : Char) : Bool := c.isAlphanum || c == '_'

/-- Whether a character can stand in a number. -/
def isNumberChar (c : Char) : Bool := isNameChar c || c == '.' || c == '+' || c == '-'

/-- A whole number without its sign. -/
def natural? (cs : List Char) : Option Nat :=
  match cs with
  | '0' :: 'x' :: ds => value? 16 ds
  | '0' :: 'o' :: ds => value? 8 ds
  | '0' :: 'b' :: ds => value? 2 ds
  | _ => value? 10 cs
where
  /-- The number with these digits. -/
  value? (base : Nat) (ds : List Char) : Option Nat :=
    if ds.isEmpty then none else Text.value? base ds

/-- A number. -/
def number? (cs : List Char) : Option Data :=
  let (negative, ds) := Binary64.cutSign (cs.filter (· != '_'))
  let sign := if negative then ['-'] else []
  if ds = "inf".toList then some (.decimal (.infinite negative))
  else if ds = "NaN".toList then some (.decimal .nan)
  else match natural? ds with
    | some n =>
      let n : Int := if negative then -(n : Int) else n
      if fitsInteger n then some (.integer n) else none
    | none =>
      if (ds.head?.map fun c => c.isDigit || c == '.').getD false then
        (Binary64.ofText? (sign ++ ds)).map .decimal
      else none

/-- Whether a name and a colon are next. -/
def atName : Reader Bool := fun cs =>
  let behind := cs.dropWhile isNameChar
  let named := !(cs.takeWhile isNameChar).isEmpty
  some (named && (behind.dropWhile isSpace).head? == some ':', cs)

/-! ### Data -/

/-- The name that data gives in a table. -/
def key? : Data → Option String
  | .text s => some s
  | _ => none

mutual

/-- Reads data. -/
def readData : Nat → Reader Data
  | 0 => fail
  | fuel + 1 => do
    match ← peek with
    | some '"' =>
      let _ ← next
      readText (← steps) []
    | some '\'' =>
      let _ ← next
      readChar
    | some '[' =>
      let _ ← next
      readItems "]" fuel []
    | some '\x7b' =>
      let _ ← next
      readMembers fuel []
    | some '(' =>
      let _ ← next
      readParentheses fuel
    | some c =>
      if c.isDigit || c == '+' || c == '-' || c == '.' then
        ofOption (number? (← take isNumberChar))
      else readWord fuel
    | none => fail

/-- Reads data that begins with a word. -/
def readWord : Nat → Reader Data
  | 0 => fail
  | fuel + 1 => do
    let w ← take isNameChar
    require (!w.isEmpty)
    let word := String.ofList w
    if word = "r" ∧ ((← peek) = some '"' ∨ (← peek) = some '#') then
      let signs ← take (· == '#')
      expect "\""
      return ← readRaw (String.ofList ('"' :: signs)) (← steps) []
    match word with
    | "true" => return .bool true
    | "false" => return .bool false
    | "None" => return .null
    | "inf" => return .decimal (.infinite false)
    | "NaN" => return .decimal .nan
    | "Some" =>
      skipAll
      expect "("
      skipAll
      let d ← readData fuel
      skipAll
      let _ ← accept ","
      skipAll
      expect ")"
      return d
    | _ =>
      skipAll
      if ← accept "(" then readParentheses fuel else return .null

/-- Reads what stands in parentheses. -/
def readParentheses : Nat → Reader Data
  | 0 => fail
  | fuel + 1 => do
    skipAll
    if ← accept ")" then return .null
    if ← atName then readFields fuel [] else readItems ")" fuel []

/-- Reads items up to what closes them; `items` are those before, the last one first. -/
def readItems (closing : String) : Nat → List Data → Reader Data
  | 0, _ => fail
  | fuel + 1, items => do
    skipAll
    if ← accept closing then return .list items.reverse
    let d ← readData fuel
    skipAll
    if ← accept "," then readItems closing fuel (d :: items)
    else
      expect closing
      return .list (d :: items).reverse

/-- Reads members with words as names, up to the closing parenthesis. -/
def readFields : Nat → List (String × Data) → Reader Data
  | 0, _ => fail
  | fuel + 1, members => do
    skipAll
    if ← accept ")" then return .table members.reverse
    let k ← take isNameChar
    require (!k.isEmpty)
    skipAll
    expect ":"
    skipAll
    let member := (String.ofList k, ← readData fuel)
    skipAll
    if ← accept "," then readFields fuel (member :: members)
    else
      expect ")"
      return .table (member :: members).reverse

/-- Reads members up to the closing brace. -/
def readMembers : Nat → List (String × Data) → Reader Data
  | 0, _ => fail
  | fuel + 1, members => do
    skipAll
    if ← accept "\x7d" then return .table members.reverse
    let k ← ofOption (key? (← readData fuel))
    skipAll
    expect ":"
    skipAll
    let member := (k, ← readData fuel)
    skipAll
    if ← accept "," then readMembers fuel (member :: members)
    else
      expect "\x7d"
      return .table (member :: members).reverse

end

/-- Passes over the announcements in front of a document. -/
def skipAnnouncements : Nat → Reader Unit
  | 0 => pure ()
  | fuel + 1 => do
    skipAll
    if ← accept "#![" then
      let _ ← take (· != ']')
      expect "]"
      skipAnnouncements fuel

/-- Reads a document. -/
def readDocument : Reader Data := do
  let fuel ← steps
  skipAnnouncements fuel
  let d ← readData fuel
  skipAll
  return d

/-- The data of a text. -/
def document? (cs : List Char) : Option Data := run? readDocument cs

end Roster.Document.Ron
