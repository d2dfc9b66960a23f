import Roster.Number.Binary64

/-!
# JSON values

* `Json.Value` is the data of a text, with numbers as they are written.
* `Json.Value.compact` and `Json.Value.pretty` write data; `Json.quoted` writes one text.
-/

namespace Roster.Json

/-- A number as it is written: its sign, the digits in front of the point and behind it, and
the exponent with its sign. -/
structure Numeral where
  negative : Bool
  whole : List Char
  fraction : List Char
  exponent : Option (Bool × List Char)
deriving DecidableEq

/-- The data of a text. -/
inductive Value
  | null
  | bool (b : Bool)
  | number (n : Numeral)
  | text (cs : List Char)
  | list (vs : List Value)
  | table (ms : List (List Char × Value))

/-- The four digits of a control character. -/
def controlDigits (c : Char) : List Char :=
  let ds := Text.hex c.toNat
  List.replicate (4 - ds.length) '0' ++ ds

/-- One character inside quotes. -/
def quotedChar (c : Char) : List Char :=
  if c == '"' then ['\\', '"']
  else if c == '\\' then ['\\', '\\']
  else if c == '\n' then ['\\', 'n']
  else if c == '\r' then ['\\', 'r']
  else if c == '\t' then ['\\', 't']
  else if c.toNat == 0x8 then ['\\', 'b']
  else if c.toNat == 0xC then ['\\', 'f']
  else if c.toNat < 0x20 then '\\' :: 'u' :: controlDigits c
  else [c]

/-- A text in quotes. -/
def quoted (cs : List Char) : List Char := '"' :: (cs.flatMap quotedChar ++ ['"'])

/-- The whole number `n`. -/
def Value.ofNat (n : Nat) : Value := .number ⟨false, Text.decimal n, [], none⟩

/-- A text. -/
def Value.ofString (s : String) : Value := .text s.toList

/-- A text or nothing. -/
def Value.ofString? : Option String → Value
  | some s => .ofString s
  | none => .null

/-- A number as it is written. -/
def Numeral.chars (n : Numeral) : List Char :=
  (if n.negative then ['-'] else []) ++ n.whole ++
    (if n.fraction.isEmpty then [] else '.' :: n.fraction) ++
    match n.exponent with
    | some (negative, ds) => 'e' :: ((if negative then ['-'] else []) ++ ds)
    | none => []

namespace Value

mutual

/-- Data without any white space. -/
def compact : Value → List Char
  | null => "null".toList
  | bool b => (if b then "true" else "false").toList
  | number n => n.chars
  | text cs => quoted cs
  | list [] => ['[', ']']
  | list (v :: vs) => '[' :: (compact v ++ compactItems vs)
  | table [] => ['\x7b', '\x7d']
  | table ((k, v) :: ms) => '\x7b' :: (quoted k ++ ':' :: compact v ++ compactMembers ms)

/-- The items behind the first one, up to the closing bracket. -/
def compactItems : List Value → List Char
  | [] => [']']
  | v :: vs => ',' :: (compact v ++ compactItems vs)

/-- The members behind the first one, up to the closing brace. -/
def compactMembers : List (List Char × Value) → List Char
  | [] => ['\x7d']
  | (k, v) :: ms => ',' :: (quoted k ++ ':' :: compact v ++ compactMembers ms)

end

/-- The start of a line at a depth. -/
def newline (depth : Nat) : List Char := '\n' :: List.replicate (2 * depth) ' '

mutual

/-- Data with a line for each item and member, at a depth. -/
def prettyAt (depth : Nat) : Value → List Char
  | list [] => ['[', ']']
  | list (v :: vs) =>
    '[' :: (newline (depth + 1) ++ prettyAt (depth + 1) v ++ prettyItems depth vs)
  | table [] => ['\x7b', '\x7d']
  | table ((k, v) :: ms) =>
    '\x7b' :: (newline (depth + 1) ++ quoted k ++ ':' :: ' ' :: prettyAt (depth + 1) v ++
      prettyMembers depth ms)
  | null => "null".toList
  | bool b => (if b then "true" else "false").toList
  | number n => n.chars
  | text cs => quoted cs

/-- The items behind the first one, up to the closing bracket. -/
def prettyItems (depth : Nat) : List Value → List Char
  | [] => newline depth ++ [']']
  | v :: vs => ',' :: (newline (depth + 1) ++ prettyAt (depth + 1) v ++ prettyItems depth vs)

/-- The members behind the first one, up to the closing brace. -/
def prettyMembers (depth : Nat) : List (List Char × Value) → List Char
  | [] => newline depth ++ ['\x7d']
  | (k, v) :: ms =>
    ',' :: (newline (depth + 1) ++ quoted k ++ ':' :: ' ' :: prettyAt (depth + 1) v ++
      prettyMembers depth ms)

end

/-- Data with a line for each item and member. -/
def pretty (v : Value) : String := String.ofList (prettyAt 0 v)

end Value

end Roster.Json
