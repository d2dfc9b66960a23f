import Roster.Json.Value

/-!
# The numbers that numerals denote

A numeral without point and exponent is a whole number if it is not too large; every other one
is rounded to a `Binary64`. The digits are read one by one into a number below `2 ^ 64`, which
is then multiplied or divided by a power of ten; digits that no longer fit count as zeros.

* `Numeral.number?` is the number; there is none if it is too large.
-/

namespace Roster.Json

/-- The number that a numeral denotes. -/
inductive Number
  /-- A whole number. -/
  | natural (n : Nat)
  /-- The negative of a whole number. -/
  | negative (n : Nat)
  /-- Any other number. -/
  | binary (x : Binary64)
deriving DecidableEq

/-- Reads digits while the number stays below `2 ^ 64`; gives the number and how many digits
are left. -/
def accumulate : Nat → List Char → Nat × Nat
  | acc, [] => (acc, 0)
  | acc, c :: cs =>
    let next := acc * 10 + (c.toNat - 0x30)
    if next < Nat.pow 2 64 then accumulate next cs else (acc, cs.length + 1)

/-- The product of a number and a power of ten, if it is not too large. A negative power
is divided by, in steps of at most `10 ^ 308`. -/
def shift? (fuel : Nat) (x : Binary64) (exponent : Int) : Option Binary64 :=
  match fuel with
  | 0 => some x
  | fuel + 1 =>
    if exponent.natAbs ≤ 308 then
      if 0 ≤ exponent then
        match x.timesPower exponent.natAbs with
        | .infinite _ => none
        | y => some y
      else some (x.overPower exponent.natAbs)
    else if x = .zero false then some x
    else if 0 ≤ exponent then none
    else shift? fuel (x.overPower 308) (exponent + 308)

/-- The number with a sign. -/
def withSign (negative : Bool) : Binary64 → Binary64
  | .finite _ m e => .finite negative m e
  | .infinite _ => .infinite negative
  | .nan => .nan

/-- The exponent that a numeral writes, if it fits in 32 bits. -/
def Numeral.written? (n : Numeral) : Option Int :=
  match n.exponent with
  | none => some 0
  | some (negative, ds) =>
    let e := (Text.value? 10 ds).getD 0
    if e < Nat.pow 2 31 then some (if negative then -(e : Int) else e) else none

/-- The digits of a numeral as a whole number, and the exponent that its point leaves. -/
def Numeral.significand (n : Numeral) : Nat × Int :=
  match accumulate 0 n.whole with
  | (m, 0) =>
    let (m, left) := accumulate m n.fraction
    (m, -((n.fraction.length - left : Nat) : Int))
  | (m, left) => (m, left)

/-- The number that a numeral denotes. -/
def Numeral.number? (n : Numeral) : Option Number :=
  let (m, e) := n.significand
  if n.fraction.isEmpty && n.exponent.isNone && e == 0 then
    if !n.negative then some (.natural m)
    else if m = 0 ∨ Nat.pow 2 63 < m then some (.binary (.ofNat true m))
    else some (.negative m)
  else match n.written? with
    | some w =>
      (shift? 8 (.ofNat false m) (e + w)).map fun x => .binary (withSign n.negative x)
    | none =>
      if m = 0 ∨ (n.exponent.map Prod.fst).getD false then
        some (.binary (.zero n.negative))
      else none

/-- The nearest `Binary64`. -/
def Number.toBinary : Number → Binary64
  | natural n => .ofNat false n
  | negative n => .ofNat true n
  | binary x => x

end Roster.Json
