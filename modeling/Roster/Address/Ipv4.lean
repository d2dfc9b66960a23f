import Roster.Text.Numeral
import Roster.Text.Pieces

/-!
# Network addresses of four bytes

The text form has one to four numbers between dots, each decimal, octal after a `0` or
hexadecimal after a `0x`; the last number fills all bytes that the others leave.

* `Ipv4.endsInNumber` says which host texts have to be read this way.
* `Ipv4.read?` reads such a text, and `Ipv4.text` writes four decimal numbers.
-/

namespace Roster.Address.Ipv4

/-- A number of the text form: hexadecimal, octal or decimal by its first characters. -/
def number? : List Char → Option Nat
  | [] => none
  | '0' :: 'x' :: cs => Text.value? 16 cs
  | '0' :: 'X' :: cs => Text.value? 16 cs
  | '0' :: c :: cs => Text.value? 8 (c :: cs)
  | cs => Text.value? 10 cs

/-- The parts between the dots; one empty part at the end does not count. -/
def parts (cs : List Char) : List (List Char) :=
  let ps := Text.pieces (· == '.') cs
  if 1 < ps.length ∧ ps.getLast? = some [] then ps.dropLast else ps

/-- Whether the last part is a number, or at least made of digits. -/
def endsInNumber (cs : List Char) : Bool :=
  match (parts cs).getLast? with
  | none => false
  | some p => (!p.isEmpty && p.all Char.isDigit) || (number? p).isSome

/-- The value of all parts but the last, each one byte. -/
def leading? : List Nat → Option Nat
  | [] => some 0
  | n :: ns => if n < 256 then leading? ns |>.map (n * Nat.pow 256 ns.length + ·) else none

/-- The address that a host text denotes. -/
def read? (cs : List Char) : Option UInt32 := do
  let ns ← (parts cs).mapM number?
  let last ← ns.getLast?
  let front := ns.dropLast
  if 3 < front.length then none
  else
    let free := 4 - front.length
    if last < Nat.pow 256 free then
      let high ← leading? front
      return UInt32.ofNat (high * Nat.pow 256 free + last)
    else none

/-- The four numbers of an address, with dots between them. -/
def text (a : UInt32) : List Char :=
  let n := a.toNat
  Text.joined '.' ([n / 16777216, n / 65536 % 256, n / 256 % 256, n % 256].map Text.decimal)

end Roster.Address.Ipv4
