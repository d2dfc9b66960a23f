import Roster.Document.Yaml.Cursor
import Roster.Text.Numeral

/-!
# Texts in YAML

A text may stand in quotes, without any, or on lines of its own behind an indicator. The end of
a line within a text in quotes or without counts as a space, and empty lines count as ends of
lines.

* `readQuoted` reads a text in quotes, `readPlain` one without.
* `readBlock` reads a text on lines of its own.
-/

namespace Roster.Document.Yaml

/-- What so many ends of lines in a row stand for. -/
def folded (breaks : Nat) : List Char :=
  if breaks = 1 then [' '] else List.replicate (breaks - 1) '\n'

/-- Counts the ends of lines with nothing but white space between them. -/
def cutBreaks : List Char → Nat × List Char
  | [] => (0, [])
  | c :: cs =>
    if c == '\n' then
      let (n, rest) := cutBreaks cs
      (n + 1, rest)
    else if isSpace c then cutBreaks cs
    else (0, c :: cs)

/-! ### Texts in quotes -/

/-- The character that stands behind a backslash. -/
def escape? (c : Char) : Option Char :=
  match c with
  | '0' => some '\x00'
  | 'a' => some '\x07'
  | 'b' => some '\x08'
  | 't' => some '\t'
  | '\t' => some '\t'
  | 'n' => some '\n'
  | 'v' => some '\x0b'
  | 'f' => some '\x0c'
  | 'r' => some '\r'
  | 'e' => some '\x1b'
  | ' ' => some ' '
  | '"' => some '"'
  | '/' => some '/'
  | '\\' => some '\\'
  | 'N' => some '\u0085'
  | '_' => some '\u00a0'
  | 'L' => some '\u2028'
  | 'P' => some '\u2029'
  | _ => none

/-- How many digits of a number stand behind a letter that a backslash announces. -/
def escapeLength? (c : Char) : Option Nat :=
  match c with
  | 'x' => some 2
  | 'u' => some 4
  | 'U' => some 8
  | _ => none

/-- The character with a number that is written in so many digits. -/
def numbered? (n : Nat) (cs : List Char) : Option Char :=
  let ds := cs.take n
  if ds.length < n then none
  else (Text.value? 16 ds).bind fun k =>
    if h : k.isValidChar then some (Char.ofNatAux k h) else none

/-- Reads a text up to its closing quote; `acc` is what came before, last character first. Lines
behind the first one start in the column `least` or behind it. -/
def quotedFrom? (quote : Char) (least : Nat) :
    Nat → List Char → List Char → Option (List Char × List Char)
  | 0, _, _ => none
  | _, _, [] => none
  | fuel + 1, acc, c :: cs =>
    if c == quote then
      match cs with
      | d :: rest =>
        if quote == '\'' && d == quote then quotedFrom? quote least fuel (quote :: acc) rest
        else some (acc.reverse, cs)
      | [] => some (acc.reverse, [])
    else if c == '\n' then
      (nextLine? cs).bind fun (n, rest) =>
        quotedFrom? quote least fuel ((folded (n + 1)).reverse ++ acc.dropWhile isSpace) rest
    else if c == '\\' && quote == '"' then
      match cs with
      | [] => none
      | '\n' :: rest =>
        (nextLine? rest).bind fun (n, rest) =>
          quotedFrom? quote least fuel (List.replicate n '\n' ++ acc) rest
      | d :: rest =>
        match escape? d, escapeLength? d with
        | some e, _ => quotedFrom? quote least fuel (e :: acc) rest
        | none, some n => do
          quotedFrom? quote least fuel ((← numbered? n rest) :: acc) (rest.drop n)
        | none, none => none
    else quotedFrom? quote least fuel (c :: acc) cs
where
  /-- The ends of lines before the next line with a text, and that text. -/
  nextLine? (cs : List Char) : Option (Nat × List Char) :=
    let (n, rest) := cutBreaks cs
    let column := ((cs.take (cs.length - rest.length)).reverse.takeWhile (· != '\n')).length
    let mark := rest.take 3
    let bounds := column = 0 && (mark == ['-', '-', '-'] || mark == ['.', '.', '.']) &&
      startsBlank (rest.drop 3)
    if least ≤ column && !bounds then some (n, rest) else none

/-- Reads a text in quotes; tells also whether it ends on the line on which it begins. A comment
cannot follow without white space in between. -/
def readQuoted (quote : Char) (least : Nat) : Reader (String × Bool) := fun cur => do
  let (cs, rest) ← quotedFrom? quote least (cur.rest.length + 1) [] (cur.rest.drop 1)
  let passed := cur.rest.take (cur.rest.length - rest.length)
  if rest.head? == some '#' then none
  else some ((String.ofList cs, !passed.contains '\n'), cur.moveTo rest)

/-! ### Texts without quotes -/

/-- Whether a colon with something behind it separates a name from its data. -/
def separates (flow : Bool) : List Char → Bool
  | [] => true
  | c :: _ => isSpace c || c == '\n' || (flow && isFlowMark c)

/-- Reads a text up to what ends it on its line; `acc` is what came before, last character
first. -/
def plainLine (flow : Bool) (acc : List Char) : List Char → List Char × List Char
  | [] => (acc, [])
  | c :: cs =>
    if c == '\n' || (c == ':' && separates flow cs) || (flow && isFlowMark c) ||
        (c == '#' && (acc.head?.map isSpace).getD true) then (acc, c :: cs)
    else plainLine flow (c :: acc) cs

/-- Whether a text goes on at a cursor on another line. -/
def goesOn (flow : Bool) (least : Nat) (cur : Cursor) : Bool :=
  !cur.atBoundary && decide (least ≤ cur.column) &&
    match cur.rest with
    | [] => false
    | c :: cs => c != '#' && !(flow && (isFlowMark c || (c == ':' && separates flow cs)))

/-- Reads the lines behind the first one, each of which starts in the column `least` or behind
it; `acc` is what came before, last character first. -/
def plainLines (flow : Bool) (least : Nat) : Nat → List Char → Cursor → List Char × Cursor
  | 0, acc, cur => (acc, cur)
  | fuel + 1, acc, cur =>
    let (n, rest) := cutBreaks cur.rest
    let ahead := cur.moveTo rest
    if n = 0 || !goesOn flow least ahead then (acc, cur)
    else
      let (line, rest) := plainLine flow [] ahead.rest
      let line := line.dropWhile isSpace
      plainLines flow least fuel (line ++ (folded n).reverse ++ acc) (ahead.moveTo rest)

/-- Reads a text without quotes on one line. -/
def readPlainLine (flow : Bool) : Reader String := fun cur =>
  let (acc, rest) := plainLine flow [] cur.rest
  some (String.ofList (acc.dropWhile isSpace).reverse, cur.moveTo rest)

/-- Reads the other lines of a text without quotes. -/
def readPlainLines (flow : Bool) (least : Nat) (first : String) : Reader String := fun cur =>
  let (acc, cur) := plainLines flow least cur.rest.length first.toList.reverse cur
  some (String.ofList acc.reverse, cur)

/-- Whether a text without quotes can start here. -/
def startsPlain (flow : Bool) : List Char → Bool
  | [] => false
  | c :: cs =>
    if c == '-' || c == '?' || c == ':' then
      match cs with
      | [] => false
      | d :: _ => !(isSpace d || d == '\n') && !(flow && isFlowMark d)
    else !(isSpace c || c == '\n' || isFlowMark c || "#&*!|>'\"%@`".contains c)

/-! ### Texts on lines of their own -/

/-- What becomes of the ends of lines at the end of a text. -/
inductive Chomping
  /-- They are left out. -/
  | strip
  /-- One is kept. -/
  | clip
  /-- All are kept. -/
  | keep
deriving DecidableEq

/-- What stands behind an indicator: how the text ends, and how far its lines are indented. -/
def blockHeader? : List Char → Option (Chomping × Option Nat)
  | [] => some (.clip, none)
  | ['-'] => some (.strip, none)
  | ['+'] => some (.keep, none)
  | [d] => (indent? d).map fun n => (.clip, some n)
  | ['-', d] => (indent? d).map fun n => (.strip, some n)
  | [d, '-'] => (indent? d).map fun n => (.strip, some n)
  | ['+', d] => (indent? d).map fun n => (.keep, some n)
  | [d, '+'] => (indent? d).map fun n => (.keep, some n)
  | _ => none
where
  /-- The value of a digit that is not zero. -/
  indent? (d : Char) : Option Nat :=
    if d.isDigit && d != '0' then some (d.toNat - 0x30) else none

/-- The lines of a text and what is left: all lines that are blank or indented by `indent`. -/
def blockLines (indent : Nat) : Nat → Cursor → List (List Char) × Cursor
  | 0, cur => ([], cur)
  | fuel + 1, cur =>
    if cur.atEnd then ([], cur)
    else
      let line := cur.rest.takeWhile (· != '\n')
      let rest := (cur.rest.dropWhile (· != '\n')).drop 1
      let spaces := line.takeWhile (· == ' ')
      let blank := spaces.length = line.length && spaces.length ≤ indent
      if blank || (indent ≤ spaces.length && !(indent = 0 && cur.atBoundary)) then
        let (lines, cur) := blockLines indent fuel { cur with rest := rest, column := 0 }
        (line.drop indent :: lines, cur)
      else ([], cur)

/-- How far the first line that is not blank is indented. -/
def firstIndent : Nat → List Char → Nat
  | column, ' ' :: cs => firstIndent (column + 1) cs
  | _, '\n' :: cs => firstIndent 0 cs
  | _, [] => 0
  | column, _ :: _ => column

/-- Whether a line begins with white space. -/
def isIndented (line : List Char) : Bool := (line.head?.map isSpace).getD false

/-- Joins lines to the line `before`, behind which so many blank ones came. An end of a line
counts as in other texts, unless a line next to it begins with white space. -/
def foldLinesFrom (before : List Char) (blanks : Nat) : List (List Char) → List Char
  | [] => []
  | l :: ls =>
    if l.isEmpty then foldLinesFrom before (blanks + 1) ls
    else
      let between := if isIndented before || isIndented l then List.replicate (blanks + 1) '\n'
        else folded (blanks + 1)
      between ++ l ++ foldLinesFrom l 0 ls

/-- Joins lines. -/
def foldLines : List (List Char) → List Char
  | [] => []
  | l :: ls => if l.isEmpty then '\n' :: foldLines ls else l ++ foldLinesFrom l 0 ls

/-- A text from its lines. -/
def blockText (folds : Bool) (chomping : Chomping) (lines : List (List Char)) : List Char :=
  let body := (lines.reverse.dropWhile List.isEmpty).reverse
  let text := if folds then foldLines body else List.intercalate ['\n'] body
  match chomping with
  | .strip => text
  | .clip => if body.isEmpty then [] else text ++ ['\n']
  | .keep =>
    text ++ List.replicate (lines.length - body.length + if body.isEmpty then 0 else 1) '\n'

/-- Reads a text on lines of its own, which are indented by at least `least`. -/
def readBlock (least : Nat) : Reader String := fun cur => do
  let folds := cur.rest.head? == some '>'
  let header := (cur.rest.drop 1).takeWhile fun c => !(isSpace c || c == '\n')
  let (chomping, given) ← blockHeader? header
  let behind := cur.rest.drop (1 + header.length)
  let comment := behind.dropWhile isSpace
  if !(comment.isEmpty || comment.head? == some '\n' || comment.head? == some '#') then none
  let rest := (comment.dropWhile (· != '\n')).drop 1
  let indent := match given with
    | some n => (least - 1) + n
    | none => max least (firstIndent 0 rest)
  let start := { cur with rest := rest, column := 0 }
  let (lines, cur) := blockLines indent (rest.length + 1) start
  return (String.ofList (blockText folds chomping lines), cur)

end Roster.Document.Yaml
