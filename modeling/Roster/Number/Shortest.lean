import Roster.Number.Binary64

/-!
# The shortest decimal text of a number

* `Shortest.digits` gives the fewest decimal digits that are nearer to a number than to any
  other, and among those the nearest.
* `Binary64.text` writes them without an exponent.
-/

namespace Roster

namespace Shortest

/-- The exponent `k` with `10 ^ k ≤ num / den < 10 ^ (k + 1)`, found from an upper bound on. -/
def logTen (num den : Nat) : Nat → Int → Int
  | 0, k => k
  | fuel + 1, k =>
    let below := if 0 ≤ k then num < den * Nat.pow 10 k.toNat
      else num * Nat.pow 10 (-k).toNat < den
    if below then logTen num den fuel (k - 1) else k

/-- The decimal point of `num / den`: the exponent of its first digit. -/
def point (num den : Nat) : Int :=
  let k := Binary64.logRatio num den
  let guess : Int := k * 1233 / 4096 + 2
  logTen num den 8 guess

/-- The multiples of `10 ^ e` next to `num / den`, the nearer one first. -/
def neighbours (num den : Nat) (e : Int) : List Nat :=
  let (n, d) := if 0 ≤ e then (num, den * Nat.pow 10 e.toNat)
    else (num * Nat.pow 10 (-e).toNat, den)
  let q := n / d
  if 2 * (n % d) < d ∨ (2 * (n % d) = d ∧ q % 2 = 0) then [q, q + 1] else [q + 1, q]

/-- The first `n` digits and those after them until one text reads back as the number. -/
def search (m : Nat) (e : Int) (num den : Nat) (top : Int) : Nat → Nat → Nat × Int
  | 0, _ => (num, 0)
  | fuel + 1, n =>
    let unit := top - n
    match (neighbours num den unit).find? fun q =>
        Binary64.ofDecimal false q unit == .finite false m e with
    | some q => (q, unit)
    | none => search m e num den top fuel (n + 1)

/-- The digits of `m * 2 ^ e` as a whole number, and the exponent of its last digit. -/
def digits (m : Nat) (e : Int) : Nat × Int :=
  if m = 0 then (0, 0)
  else
    let (num, den) := Binary64.ratio m e
    search m e num den (point num den) 17 0

end Shortest

namespace Binary64

/-- The text of a whole number of units `10 ^ unit`, without an exponent. -/
def plain (n : Nat) (unit : Int) : List Char :=
  let ds := Text.decimal n
  if 0 ≤ unit then
    if n = 0 then ds else ds ++ List.replicate unit.toNat '0'
  else
    let places := (-unit).toNat
    let ds := List.replicate (places + 1 - ds.length) '0' ++ ds
    let whole := ds.take (ds.length - places)
    let part := ((ds.drop (ds.length - places)).reverse.dropWhile (· == '0')).reverse
    if part.isEmpty then whole else whole ++ '.' :: part

/-- The text of a number: the shortest one that reads back, without an exponent. -/
def text : Binary64 → String
  | finite s m e =>
    let (n, unit) := Shortest.digits m e
    String.ofList ((if s then ['-'] else []) ++ plain n unit)
  | infinite s => if s then "-inf" else "inf"
  | nan => "NaN"

end Binary64

end Roster
