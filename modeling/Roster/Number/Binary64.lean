import Roster.Text.Numeral

/-!
# Numbers with fifty-three significant bits

The numbers `± m * 2 ^ e` with `m` below `2 ^ 53` and `e` at least `-1074`, the two infinities,
and a value for results that are none of these.

* `Binary64.ofRatio` is the nearest such number to a quotient; a tie goes to the even one.
* `Binary64.toRatio?` gives the exact magnitude as a quotient.
* `Binary64.roundHalfAway` and `Binary64.timesHalfEven?` give the nearest whole number.
-/

namespace Roster

/-- A number with fifty-three significant bits. -/
inductive Binary64
  /-- The number `± m * 2 ^ e`. -/
  | finite (negative : Bool) (m : Nat) (e : Int)
  /-- More than every number, or less. -/
  | infinite (negative : Bool)
  /-- No number. -/
  | nan
deriving DecidableEq

namespace Binary64

/-- The nearest whole number to a quotient; a tie goes to the even one. -/
def divHalfEven (num den : Nat) : Nat :=
  let q := num / den
  let r := num % den
  if 2 * r < den ∨ (2 * r = den ∧ q % 2 = 0) then q else q + 1

/-- The nearest whole number to a quotient; a tie goes up. -/
def divHalfUp (num den : Nat) : Nat := (2 * num + den) / (2 * den)

/-- The exponent `k` with `2 ^ k ≤ num / den < 2 ^ (k + 1)`. -/
def logRatio (num den : Nat) : Int :=
  let k : Int := (num.log2 : Int) - (den.log2 : Int)
  let low := if 0 ≤ k then num < den * Nat.pow 2 k.toNat else num * Nat.pow 2 (-k).toNat < den
  if low then k - 1 else k

/-- A quotient with both sides multiplied so that its unit is `2 ^ e`. -/
def scale (num den : Nat) (e : Int) : Nat × Nat :=
  if 0 ≤ e then (num, den * Nat.pow 2 e.toNat) else (num * Nat.pow 2 (-e).toNat, den)

/-- The zero with a sign. -/
def zero (negative : Bool) : Binary64 := finite negative 0 (-1074)

/-- The nearest number to `± num / den`. -/
def ofRatio (negative : Bool) (num den : Nat) : Binary64 :=
  if num = 0 then zero negative
  else
    let e := max (logRatio num den - 52) (-1074)
    let (n, d) := scale num den e
    let m := divHalfEven n d
    let (m, e) := if m = Nat.pow 2 53 then (Nat.pow 2 52, e + 1) else (m, e)
    if 971 < e then infinite negative else finite negative m e

/-- The exact value of `m * 2 ^ e` as a quotient. -/
def ratio (m : Nat) (e : Int) : Nat × Nat :=
  if 0 ≤ e then (m * Nat.pow 2 e.toNat, 1) else (m, Nat.pow 2 (-e).toNat)

/-- The nearest number to `± n`. -/
def ofNat (negative : Bool) (n : Nat) : Binary64 := ofRatio negative n 1

/-- The nearest number to `± n * 10 ^ exponent`. -/
def ofDecimal (negative : Bool) (n : Nat) (exponent : Int) : Binary64 :=
  if 0 ≤ exponent then ofRatio negative (n * Nat.pow 10 exponent.toNat) 1
  else ofRatio negative n (Nat.pow 10 (-exponent).toNat)

/-- Whether a number stands below zero. -/
def isNegative : Binary64 → Bool
  | finite s m _ => s && m != 0
  | infinite s => s
  | nan => false

/-- The magnitude as a quotient, if it is finite. -/
def toRatio? : Binary64 → Option (Nat × Nat)
  | finite _ m e => some (ratio m e)
  | _ => none

/-- The product with a power of ten, `10 ^ exponent` itself being rounded first. -/
def timesPower (x : Binary64) (exponent : Nat) : Binary64 :=
  match x, ofDecimal false 1 exponent with
  | finite s m e, finite _ p f =>
    let (a, b) := ratio m e
    let (c, d) := ratio p f
    ofRatio s (a * c) (b * d)
  | finite s _ _, _ => infinite s
  | y, _ => y

/-- The quotient by a power of ten, `10 ^ exponent` itself being rounded first. -/
def overPower (x : Binary64) (exponent : Nat) : Binary64 :=
  match x, ofDecimal false 1 exponent with
  | finite s m e, finite _ p f =>
    let (a, b) := ratio m e
    let (c, d) := ratio p f
    ofRatio s (a * d) (b * c)
  | finite s _ _, _ => zero s
  | y, _ => y

/-- The nearest whole number to the product of the magnitude and `factor`, a tie going to the
even one. -/
def timesHalfEven? (factor : Nat) (x : Binary64) : Option Nat :=
  x.toRatio?.map fun (a, b) => divHalfEven (factor * a) b

/-- The nearest whole number, a tie going away from zero, cut off at `limit`; zero for
everything negative and for no number. -/
def roundHalfAway (limit : Nat) : Binary64 → Nat
  | finite false m e =>
    let (a, b) := ratio m e
    min limit (divHalfUp a b)
  | infinite false => limit
  | _ => 0

end Binary64

end Roster
