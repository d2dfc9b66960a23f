import Roster.Document.Data
import Roster.Number.Decimal
import Roster.Text.Pieces

/-!
# Scalars in TOML

Whole numbers, numbers with a point or an exponent, truth values and times are written without
quotes. Digits may have underscores between them.

* `scalar?` is the data that a word stands for. A time stands for its text.
-/

namespace Roster.Document.Toml

/-! ### Numbers -/

/-- Digits without the underscores, each of which stands between two digits. -/
def digits? (base : Nat) (cs : List Char) : Option (List Char) :=
  let groups := Text.pieces (· == '_') cs
  if groups.any List.isEmpty then none
  else (Text.value? base groups.flatten).map fun _ => groups.flatten

/-- Digits in base ten in front of which there are no zeros. -/
def wholeDigits? (cs : List Char) : Option (List Char) :=
  (digits? 10 cs).bind fun ds => if ds.head? == some '0' && ds.length != 1 then none else some ds

/-- A whole number. -/
def integer? (cs : List Char) : Option Int :=
  let n : Option Int := match cs with
    | '0' :: 'x' :: ds => natural 16 (digits? 16 ds)
    | '0' :: 'o' :: ds => natural 8 (digits? 8 ds)
    | '0' :: 'b' :: ds => natural 2 (digits? 2 ds)
    | _ =>
      let (negative, ds) := Binary64.cutSign cs
      (natural 10 (wholeDigits? ds)).map fun n => if negative then -n else n
  n.bind fun n => if fitsInteger n then some n else none
where
  /-- The number with these digits. -/
  natural (base : Nat) (ds : Option (List Char)) : Option Int :=
    (ds.bind (Text.value? base)).map fun n => (n : Int)

/-- The exponent of a number, with the letter in front of it. -/
def exponent? : List Char → Option (List Char)
  | [] => some []
  | e :: cs =>
    let (negative, ds) := Binary64.cutSign cs
    (digits? 10 ds).map fun ds => e :: (if negative then ['-'] else []) ++ ds

/-- Whether a character is in front of an exponent. -/
def isExponentMark (c : Char) : Bool := c == 'e' || c == 'E'

/-- A number with a point or an exponent, or a word for one without digits. Written in digits,
it is not too large. -/
def decimal? (cs : List Char) : Option Binary64 :=
  let (negative, ds) := Binary64.cutSign cs
  if ds = "inf".toList then some (.infinite negative)
  else if ds = "nan".toList then some .nan
  else do
    let (front, exponent) := Text.cutAt isExponentMark ds
    if exponent.isEmpty && !front.contains '.' then none
    let x ← Binary64.ofText?
      ((if negative then ['-'] else []) ++ (← front? front) ++ (← exponent? exponent))
    if x matches .infinite _ then none else some x
where
  /-- What stands in front of the exponent: digits, and perhaps a point and more digits. -/
  front? (cs : List Char) : Option (List Char) :=
    match Text.pieces (· == '.') cs with
    | [whole] => wholeDigits? whole
    | [whole, part] => do return (← wholeDigits? whole) ++ '.' :: (← digits? 10 part)
    | _ => none

/-! ### Times -/

/-- A number of exactly so many digits. -/
def fixed? (width : Nat) (cs : List Char) : Option Nat :=
  if cs.length = width then Text.decimal? cs else none

/-- How many days a month has. -/
def monthLength (year month : Nat) : Nat :=
  match month with
  | 2 => if year % 4 = 0 ∧ (year % 100 ≠ 0 ∨ year % 400 = 0) then 29 else 28
  | 4 | 6 | 9 | 11 => 30
  | _ => 31

/-- Whether a text is a day. -/
def isDay (cs : List Char) : Bool :=
  match Text.pieces (· == '-') cs with
  | [year, month, day] =>
    match fixed? 4 year, fixed? 2 month, fixed? 2 day with
    | some y, some m, some d => 1 ≤ m && m ≤ 12 && 1 ≤ d && d ≤ monthLength y m
    | _, _, _ => false
  | _ => false

/-- Whether a text is an hour and a minute with a colon in between. -/
def isMinute (cs : List Char) : Bool :=
  match Text.pieces (· == ':') cs with
  | [hour, minute] =>
    match fixed? 2 hour, fixed? 2 minute with
    | some h, some m => h ≤ 23 && m ≤ 59
    | _, _ => false
  | _ => false

/-- A fraction of a second with at most nine digits, none of them a zero at the end. -/
def fraction? : List Char → Option (List Char)
  | [] => some []
  | _ :: ds =>
    if ds.isEmpty || !ds.all Char.isDigit then none
    else match ((ds.take 9).reverse.dropWhile (· == '0')).reverse with
      | [] => some []
      | ds => some ('.' :: ds)

/-- A time of day. -/
def clock? (cs : List Char) : Option (List Char) :=
  let (front, fraction) := Text.cutAt (· == '.') cs
  match fixed? 2 (front.drop 6) with
  | some s =>
    if isMinute (front.take 5) && (front.drop 5).head? == some ':' && s ≤ 60 then
      (fraction? fraction).map (front ++ ·)
    else none
  | none => none

/-- How far a time is from that of the meridian, if that is told. -/
def offset? : List Char → Option (List Char)
  | [] => some []
  | sign :: cs =>
    if cs.isEmpty then (if sign == 'Z' || sign == 'z' then some ['Z'] else none)
    else if (sign == '+' || sign == '-') && isMinute cs then
      some ((if cs = "00:00".toList then '+' else sign) :: cs)
    else none

/-- Whether a character is between a time of day and its distance from another one. -/
def isOffsetMark (c : Char) : Bool := c == 'Z' || c == 'z' || c == '+' || c == '-'

/-- A time: a day, a time of day, or both. -/
def time? (cs : List Char) : Option (List Char) :=
  let day := cs.take 10
  if !isDay day then clock? cs
  else match cs.drop 10 with
    | [] => some day
    | mark :: cs =>
      if mark == 'T' || mark == 't' || mark == ' ' then do
        let (front, offset) := Text.cutAt isOffsetMark cs
        return day ++ 'T' :: (← clock? front) ++ (← offset? offset)
      else none

/-! ### Words -/

/-- The data that a word stands for. -/
def scalar? (cs : List Char) : Option Data :=
  if cs = "true".toList then some (.bool true)
  else if cs = "false".toList then some (.bool false)
  else (integer? cs).map .integer <|> (decimal? cs).map .decimal <|>
    (time? cs).map fun t => .text (String.ofList t)

end Roster.Document.Toml
