/-!
# Names written with letters, digits and hyphens

A label with characters outside ASCII is written as its ASCII characters followed by a code of
where the others go: for each of them, from the smallest upwards, the distance from the one
before, as a numeral with digits of base 36 whose weights adapt. This is the scheme of
RFC 3492.

* `Punycode.encode` writes a label, `Punycode.decode?` reads one.
-/

namespace Roster.Domain.Punycode

/-- The digit of a number below 36. -/
def digit (n : Nat) : Char :=
  if n < 26 then Char.ofNat (0x61 + n) else Char.ofNat (0x16 + n)

/-- The value of a digit. -/
def digit? (c : Char) : Option Nat :=
  let n := c.toNat
  if 0x61 ≤ n ∧ n ≤ 0x7A then some (n - 0x61)
  else if 0x41 ≤ n ∧ n ≤ 0x5A then some (n - 0x41)
  else if 0x30 ≤ n ∧ n ≤ 0x39 then some (n - 0x16)
  else none

theorem digit?_digit (n : Nat) (h : n < 36) : digit? (digit n) = some n := by
  have all : ∀ k ∈ List.range 36, digit? (digit k) = some k := by decide
  exact all n (List.mem_range.2 h)

/-- The least value of a digit at weight `k` that is not the last one. -/
def threshold (k bias : Nat) : Nat := if k ≤ bias then 1 else min 26 (k - bias)

theorem threshold_bounds (k bias : Nat) : 1 ≤ threshold k bias ∧ threshold k bias ≤ 26 := by
  unfold threshold
  split <;> omega

/-- Divides by 35 down to 455, counting 36 a step. -/
def settle (delta k : Nat) : Nat :=
  if 455 < delta then settle (delta / 35) (k + 36) else k + 36 * delta / (delta + 38)
termination_by delta

/-- The bias after a distance `delta`, with `points` characters placed. -/
def adapt (delta points : Nat) (first : Bool) : Nat :=
  let d := if first then delta / 700 else delta / 2
  settle (d + d / points) 0

/-- The numeral of a distance, from weight `k` on. -/
def numeral (bias k q : Nat) : List Char :=
  let t := threshold k bias
  if q < t then [digit q]
  else digit (t + (q - t) % (36 - t)) :: numeral bias (k + 36) ((q - t) / (36 - t))
termination_by q
decreasing_by
  have := threshold_bounds k bias
  calc (q - threshold k bias) / (36 - threshold k bias)
      ≤ q - threshold k bias := Nat.div_le_self _ _
    _ < q := by omega

/-- What has been written, the distance since, the bias, and how many characters are placed. -/
structure Progress where
  out : List Char
  delta : Nat
  bias : Nat
  placed : Nat

/-- Passes one character of the label while those with number `n` are being placed. -/
def Progress.pass (basic n : Nat) (p : Progress) (c : Char) : Progress :=
  if c.toNat < n then { p with delta := p.delta + 1 }
  else if c.toNat = n then
    { out := p.out ++ numeral p.bias 36 p.delta
      delta := 0
      bias := adapt p.delta (p.placed + 1) (p.placed == basic)
      placed := p.placed + 1 }
  else p

/-- Places the characters with the given numbers, which increase from at least `n`. -/
def placeAll (cs : List Char) (basic : Nat) : Nat → List Nat → Progress → Progress
  | _, [], p => p
  | n, m :: ms, p =>
    let p := { p with delta := p.delta + (m - n) * (p.placed + 1) }
    let p := cs.foldl (Progress.pass basic m) p
    placeAll cs basic (m + 1) ms { p with delta := p.delta + 1 }

/-- Inserts a number into an increasing list. -/
def insertNumber (n : Nat) : List Nat → List Nat
  | [] => [n]
  | m :: ms =>
    if n < m then n :: m :: ms else if n = m then m :: ms else m :: insertNumber n ms

/-- The code of a label. -/
def encode (cs : List Char) : List Char :=
  let basic := cs.filter fun c => c.toNat < 0x80
  let others := (cs.filter fun c => 0x80 ≤ c.toNat).map Char.toNat
  let front := if basic.isEmpty then [] else basic ++ ['-']
  (placeAll cs basic.length 0x80 (others.foldr insertNumber [])
    ⟨front, 0, 72, basic.length⟩).out

/-- The character with number `n`, if it numbers one. -/
def scalar? (n : Nat) : Option Char :=
  if h : n.isValidChar then some (Char.ofNatAux n h) else none

/-- Reads distances and places their characters: `n` is the number of the last character
placed, `i` the place behind it, and `value` what has been read of a numeral whose next digit
has the factor `factor` and the weight `k`. -/
def decodeFrom (out : List Char) (n i bias : Nat) (value factor k : Nat) :
    List Char → Option (List Char)
  | [] => if k = 36 then some out else none
  | c :: cs =>
    match digit? c with
    | none => none
    | some d =>
      let value := value + d * factor
      let t := threshold k bias
      if t ≤ d then decodeFrom out n i bias value (factor * (36 - t)) (k + 36) cs
      else
        let points := out.length + 1
        let place := i + value
        let n := n + place / points
        let spot := place % points
        match scalar? n with
        | none => none
        | some x =>
          decodeFrom (out.take spot ++ x :: out.drop spot) n (spot + 1)
            (adapt value points (out.all fun c => c.toNat < 0x80)) 0 1 36 cs

/-- The place of the last hyphen, counted from the front. -/
def lastHyphen? (cs : List Char) : Option Nat :=
  (cs.reverse.findIdx? (· == '-')).map fun i => cs.length - 1 - i

/-- The label of a code. -/
def decode? (cs : List Char) : Option (List Char) :=
  match lastHyphen? cs with
  | none => decodeFrom [] 0x80 0 72 0 1 36 cs
  | some 0 => none
  | some i =>
    if (cs.take i).all fun c => c.toNat < 0x80 then
      decodeFrom (cs.take i) 0x80 0 72 0 1 36 (cs.drop (i + 1))
    else none

end Roster.Domain.Punycode
