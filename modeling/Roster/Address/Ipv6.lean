import Roster.Text.Numeral
import Roster.Text.Pieces

/-!
# Network addresses of eight groups

The text form has eight hexadecimal groups between colons. A double colon stands for one or
more zero groups, once, and the last two groups may be written as four decimal bytes.

* `Ipv6.read?` reads the text form.
* `Ipv6.text` writes the canonical one: lower case, no leading zeros, and the first of the
  longest runs of at least two zero groups as a double colon.
-/

namespace Roster.Address

/-- An address of eight groups of sixteen bits. -/
abbrev Ipv6 := Vector UInt16 8

namespace Ipv6

/-- A group: one to four hexadecimal digits. -/
def group? (cs : List Char) : Option Nat :=
  if cs.isEmpty || 4 < cs.length then none else Text.value? 16 cs

/-- A byte in decimal, without leading zeros. -/
def byte? (cs : List Char) : Option Nat :=
  match cs with
  | '0' :: _ :: _ => none
  | _ => do
    let n ← Text.decimal? cs
    if n < 256 then some n else none

/-- Four decimal bytes as two groups. -/
def quad? (cs : List Char) : Option (List Nat) :=
  match (Text.pieces (· == '.') cs).mapM byte? with
  | some [a, b, c, d] => some [a * 256 + b, c * 256 + d]
  | _ => none

/-- Groups between colons; the last piece may be four decimal bytes if `tail` allows it. -/
def groups? (tail : Bool) : List (List Char) → Option (List Nat)
  | [] => some []
  | [w] => if tail && w.contains '.' then quad? w else (group? w).map ([·])
  | w :: ws => do
    let g ← group? w
    let gs ← groups? tail ws
    return g :: gs

/-- One side of a double colon: nothing, or groups between colons. -/
def side? (tail : Bool) (cs : List Char) : Option (List Nat) :=
  if cs.isEmpty then some [] else groups? tail (Text.pieces (· == ':') cs)

/-- The text in front of the first double colon and the text behind it. -/
def cutDouble : List Char → Option (List Char × List Char)
  | ':' :: ':' :: cs => some ([], cs)
  | c :: cs => (cutDouble cs).map fun (l, r) => (c :: l, r)
  | [] => none

/-- The address with the given groups, if there are eight. -/
def ofGroups? (gs : List Nat) : Option Ipv6 :=
  let ws := gs.map UInt16.ofNat
  if h : ws.toArray.size = 8 then some ⟨ws.toArray, h⟩ else none

/-- The address that a text denotes. -/
def read? (cs : List Char) : Option Ipv6 :=
  match cutDouble cs with
  | none => side? true cs >>= ofGroups?
  | some (l, r) => do
    let ls ← side? false l
    let rs ← side? true r
    if ls.length + rs.length ≤ 7 then
      ofGroups? (ls ++ List.replicate (8 - (ls.length + rs.length)) 0 ++ rs)
    else none

/-- How many zeros stand at the front. -/
def zeros (gs : List UInt16) : Nat := (gs.takeWhile (· == 0)).length

/-- Where the first of the longest runs of zeros starts, and its length. -/
def longestZeros : Nat → List UInt16 → Nat × Nat
  | _, [] => (0, 0)
  | i, g :: gs =>
    let (j, n) := longestZeros (i + 1) gs
    let m := zeros (g :: gs)
    if 0 < m ∧ n ≤ m then (i, m) else (j, n)

/-- Groups with colons between them. -/
def colons (gs : List UInt16) : List Char :=
  Text.joined ':' (gs.map fun g => Text.hex g.toNat)

/-- The canonical text of an address. -/
def text (a : Ipv6) : List Char :=
  let gs := a.toList
  let (i, n) := longestZeros 0 gs
  if n < 2 then colons gs
  else colons (gs.take i) ++ ':' :: ':' :: colons (gs.drop (i + n))

end Ipv6

end Roster.Address
