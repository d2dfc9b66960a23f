import Roster.Number.Binary64

/-!
# Numbers that are written in decimal

`Binary64.ofText?` reads a number: digits with a point in front, inside or behind, an exponent
perhaps, or a word for one of the numbers that have no digits. It is the nearest number to what
is written.
-/

namespace Roster.Binary64

/-- The words for numbers without digits. -/
def ofWord? (negative : Bool) (cs : List Char) : Option Binary64 :=
  let word := cs.map Char.toLower
  if word = "inf".toList ∨ word = "infinity".toList then some (.infinite negative)
  else if word = "nan".toList then some .nan
  else none

/-- A sign and what follows it. -/
def cutSign : List Char → Bool × List Char
  | '-' :: cs => (true, cs)
  | '+' :: cs => (false, cs)
  | cs => (false, cs)

/-- The exponent behind a number; without one it is zero. -/
def exponent? : List Char → Option Int
  | [] => some 0
  | c :: cs =>
    if c == 'e' || c == 'E' then
      let (negative, ds) := cutSign cs
      (Text.decimal? ds).map fun n => if negative then -(n : Int) else n
    else none

/-- The digits in front of a point and those behind it, and what follows. -/
def cutDigits (cs : List Char) : List Char × List Char × List Char :=
  let (whole, rest) := cs.span Char.isDigit
  match rest with
  | '.' :: rest =>
    let (part, rest) := rest.span Char.isDigit
    (whole, part, rest)
  | _ => (whole, [], rest)

/-- The nearest number to `± n * 10 ^ exponent`, for any exponent: beyond four hundred places
there are only zero and the infinities. -/
def ofDecimalAny (negative : Bool) (n : Nat) (exponent : Int) : Binary64 :=
  let top := exponent + (Text.decimal n).length
  if n = 0 ∨ top < -400 then zero negative
  else if 400 < top then infinite negative
  else ofDecimal negative n exponent

/-- The number that a text writes. -/
def ofText? (cs : List Char) : Option Binary64 :=
  let (negative, cs) := cutSign cs
  let (whole, part, rest) := cutDigits cs
  if whole.isEmpty && part.isEmpty then ofWord? negative cs
  else (exponent? rest).map fun e =>
    ofDecimalAny negative ((Text.value? 10 (whole ++ part)).getD 0) (e - part.length)

end Roster.Binary64
