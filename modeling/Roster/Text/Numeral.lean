import Roster.Text.Percent

/-!
# Numerals

A natural number is written with the digits of a base, most significant first.

* `decimal` writes a number in base ten, `integer` one with a sign, and `hex` a number in base
  sixteen with lower case letters.
* `value?` reads digits of any base up to sixteen and refuses every other character.
* `decimal?` reads a non-empty decimal numeral.
-/

namespace Roster.Text

/-- The decimal text of a number. -/
def decimal (n : Nat) : List Char := Nat.toDigits 10 n

/-- The decimal text of a whole number. -/
def integer (n : Int) : List Char := (if n < 0 then ['-'] else []) ++ decimal n.natAbs

/-- The lower case hexadecimal text of a number. -/
def hex (n : Nat) : List Char := Nat.toDigits 16 n

/-- The value of the digits of a base after those that make up `acc`. -/
def valueFrom? (base : Nat) : Nat → List Char → Option Nat
  | acc, [] => some acc
  | acc, c :: cs =>
    match Percent.digit? c with
    | some d => if d < base then valueFrom? base (acc * base + d) cs else none
    | none => none

/-- The value of a text of digits of a base; the empty text has the value zero. -/
def value? (base : Nat) (cs : List Char) : Option Nat := valueFrom? base 0 cs

/-- The value of a decimal numeral with at least one digit. -/
def decimal? : List Char → Option Nat
  | [] => none
  | c :: cs => value? 10 (c :: cs)

/-- A decimal numeral with an optional plus sign in front. -/
def signedDecimal? : List Char → Option Nat
  | '+' :: cs => decimal? cs
  | cs => decimal? cs

end Roster.Text
