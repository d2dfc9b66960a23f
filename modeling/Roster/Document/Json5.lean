import Roster.Document.Data
import Roster.Document.Reader
import Roster.Number.Decimal
import Roster.Text.Trim

/-!
# Documents in JSON5

Data is written as in JSON, but names need no quotes, texts may have single ones, lists and
tables may end in a comma, numbers may be written in more ways, and there are comments.

* `Json5.document?` is the data of a text.
-/

namespace Roster.Document.Json5

open Reader

/-! ### Between the parts of a text -/

/-- Whether a character ends a line. -/
def isBreak (c : Char) : Bool := c == '\n' || c == '\r' || c == '\u2028' || c == '\u2029'

/-- What is left behind a long comment. -/
def behindComment? : List Char → Option (List Char)
  | [] => none
  | [_] => none
  | '*' :: '/' :: cs => some cs
  | _ :: c :: cs => behindComment? (c :: cs)

/-- Passes over white space and comments. -/
def skip : Nat → Reader Unit
  | 0 => pure ()
  | fuel + 1 => do
    let _ ← take fun c => Text.isBlank c || c == '\uFEFF'
    if ← accept "//" then
      let _ ← take fun c => !isBreak c
      skip fuel
    else if ← accept "/*" then
      fun cs => (behindComment? cs).map fun cs => ((), cs)
      skip fuel

/-- Passes over all up to what counts next. -/
def skipAll : Reader Unit := do skip (← steps)

/-! ### Texts and names -/

/-- Reads what stands behind a backslash. -/
def readEscape : Reader (List Char) := do
  let c ← next
  match c with
  | 'b' => return ['\x08']
  | 'f' => return ['\x0c']
  | 'n' => return ['\n']
  | 'r' => return ['\r']
  | 't' => return ['\t']
  | 'v' => return ['\x0b']
  | '0' => return ['\x00']
  | 'x' => return [← numbered 2]
  | 'u' => return [← readUnits]
  | '\r' =>
    let _ ← accept "\n"
    return []
  | _ =>
    require (!c.isDigit)
    return if isBreak c then [] else [c]
where
  /-- Reads the number of a character, or those of the two halves that make it up. -/
  readUnits : Reader Char := do
    let lead ← ofOption (Text.value? 16 (← takeN 4))
    if 0xD800 ≤ lead ∧ lead ≤ 0xDBFF then
      expect "\\u"
      let trail ← ofOption (Text.value? 16 (← takeN 4))
      require (0xDC00 ≤ trail && trail ≤ 0xDFFF)
      return Char.ofNat ((lead - 0xD800) * 0x400 + (trail - 0xDC00) + 0x10000)
    else ofOption (if h : lead.isValidChar then some (Char.ofNatAux lead h) else none)

/-- Reads a text up to its closing quote; `acc` is what came before, last character first. -/
def readText (quote : Char) : Nat → List Char → Reader String
  | 0, _ => fail
  | fuel + 1, acc => do
    let c ← next
    if c == quote then return String.ofList acc.reverse
    else if c == '\\' then readText quote fuel ((← readEscape).reverse ++ acc)
    else
      require (!isBreak c)
      readText quote fuel (c :: acc)

/-- Whether a character can stand in a name without quotes. -/
def isNameChar (c : Char) : Bool :=
  c.isAlphanum || c == '$' || c == '_' || (0x80 ≤ c.toNat && !Text.isBlank c)

/-- Reads a name. -/
def readName : Reader String := do
  match ← peek with
  | some '"' =>
    let _ ← next
    readText '"' (← steps) []
  | some '\'' =>
    let _ ← next
    readText '\'' (← steps) []
  | _ =>
    let cs ← take isNameChar
    require (!(cs.head?.map Char.isDigit).getD true)
    return String.ofList cs

/-! ### Numbers and words -/

/-- Whether a character can stand in a word. -/
def isWordChar (c : Char) : Bool := c.isAlphanum || c == '+' || c == '-' || c == '.'

/-- A number without its sign. -/
def number? (negative : Bool) (cs : List Char) : Option Data :=
  if cs = "Infinity".toList then some (.decimal (.infinite negative))
  else if cs = "NaN".toList then some (.decimal .nan)
  else match cs with
    | '0' :: x :: ds =>
      if x == 'x' || x == 'X' then if ds.isEmpty then none else integer 16 ds
      else if x.isDigit then none
      else decimal
    | c :: _ =>
      if cs.all Char.isDigit then integer 10 cs
      else if c.isDigit || c == '.' then decimal
      else none
    | [] => none
where
  /-- The whole number with these digits. -/
  integer (base : Nat) (ds : List Char) : Option Data :=
    (Text.value? base ds).bind fun n =>
      let n : Int := if negative then -(n : Int) else n
      if fitsInteger n then some (.integer n) else none
  /-- The number that is written with a point or an exponent. -/
  decimal : Option Data :=
    (Binary64.ofText? ((if negative then ['-'] else []) ++ cs)).map .decimal

/-- The data that a word stands for. -/
def word? (cs : List Char) : Option Data :=
  if cs = "null".toList then some .null
  else if cs = "true".toList then some (.bool true)
  else if cs = "false".toList then some (.bool false)
  else
    let (negative, ds) := Binary64.cutSign cs
    number? negative ds

/-! ### Data -/

mutual

/-- Reads data. -/
def readData : Nat → Reader Data
  | 0 => fail
  | fuel + 1 => do
    match ← peek with
    | some '"' => return .text (← readName)
    | some '\'' => return .text (← readName)
    | some '[' =>
      let _ ← next
      readItems fuel []
    | some '\x7b' =>
      let _ ← next
      readMembers fuel []
    | _ => ofOption (word? (← take isWordChar))

/-- Reads items up to the closing bracket; `items` are those before, the last one first. -/
def readItems : Nat → List Data → Reader Data
  | 0, _ => fail
  | fuel + 1, items => do
    skipAll
    if ← accept "]" then return .list items.reverse
    let d ← readData fuel
    skipAll
    if ← accept "," then readItems fuel (d :: items)
    else
      expect "]"
      return .list (d :: items).reverse

/-- Reads members up to the closing brace; `members` are those before, the last one first. -/
def readMembers : Nat → List (String × Data) → Reader Data
  | 0, _ => fail
  | fuel + 1, members => do
    skipAll
    if ← accept "\x7d" then return .table members.reverse
    let k ← readName
    skipAll
    expect ":"
    skipAll
    let d ← readData fuel
    skipAll
    if ← accept "," then readMembers fuel ((k, d) :: members)
    else
      expect "\x7d"
      return .table ((k, d) :: members).reverse

end

/-- Reads a document. -/
def readDocument : Reader Data := do
  let fuel ← steps
  skipAll
  let d ← readData fuel
  skipAll
  return d

/-- The data of a text. -/
def document? (cs : List Char) : Option Data := run? readDocument cs

end Roster.Document.Json5
