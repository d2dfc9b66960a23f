import Roster.Text.Utf8

/-!
# Percent encoding

`Percent.encode` writes the characters of a class as the percent triplets of their bytes and
keeps the others; `Percent.decode` reads triplets back as bytes and leaves a percent sign
that starts none as it is.

* `encode_of_none` says that a text without characters of the class stays as it is.
-/

namespace Roster.Text.Percent

/-- The upper case hexadecimal digit of a number below sixteen. -/
def upperDigit (n : Nat) : Char :=
  if n < 10 then Char.ofNat (0x30 + n) else Char.ofNat (0x37 + n)

/-- The value of a hexadecimal digit in either case. -/
def digit? (c : Char) : Option Nat :=
  let n := c.toNat
  if 0x30 ≤ n ∧ n ≤ 0x39 then some (n - 0x30)
  else if 0x41 ≤ n ∧ n ≤ 0x46 then some (n - 0x37)
  else if 0x61 ≤ n ∧ n ≤ 0x66 then some (n - 0x57)
  else none

/-- The triplet of one byte. -/
def triplet (b : UInt8) : List Char :=
  ['%', upperDigit (b.toNat / 16), upperDigit (b.toNat % 16)]

/-- One character, as triplets if it is in the class. -/
def encodeChar (inSet : Char → Bool) (c : Char) : List Char :=
  if inSet c then (String.utf8EncodeChar c).flatMap triplet else [c]

/-- The text with the characters of the class written as triplets. -/
def encode (inSet : Char → Bool) (cs : List Char) : List Char :=
  cs.flatMap (encodeChar inSet)

/-- The bytes of the text, each triplet being the byte it stands for. -/
def decode : List Char → List UInt8
  | [] => []
  | '%' :: a :: b :: cs =>
    match digit? a, digit? b with
    | some x, some y => UInt8.ofNat (x * 16 + y) :: decode cs
    | _, _ => 0x25 :: decode (a :: b :: cs)
  | c :: cs => String.utf8EncodeChar c ++ decode cs

theorem encode_of_none {inSet : Char → Bool} {cs : List Char}
    (h : ∀ c ∈ cs, inSet c = false) : encode inSet cs = cs := by
  induction cs with
  | nil => rfl
  | cons c cs ih =>
    have := ih fun d hd => h d (by simp [hd])
    simp_all [encode, encodeChar]

/-! ### The classes of characters that a part of an address writes as triplets -/

/-- Controls, and everything outside ASCII. -/
def controls (c : Char) : Bool := c.toNat < 0x20 || 0x7F ≤ c.toNat

/-- What a fragment encodes. -/
def fragment (c : Char) : Bool := controls c || " \"<>`".toList.contains c

/-- What a query encodes. -/
def query (c : Char) : Bool := controls c || " \"#<>".toList.contains c

/-- What a query of a special scheme encodes: the apostrophe as well. -/
def specialQuery (c : Char) : Bool := query c || c == '\''

/-- What a path encodes. -/
def path (c : Char) : Bool := fragment c || "#?^\x7b\x7d".toList.contains c

/-- What a user name or a password encodes. -/
def userInfo (c : Char) : Bool := path c || "/:;=@[\\]|".toList.contains c

/-- What text added as one path segment encodes: also what would end or imitate a segment. -/
def segment (c : Char) : Bool := path c || "/%".toList.contains c

/-- What text added as one path segment of a special scheme encodes. -/
def specialSegment (c : Char) : Bool := segment c || c == '\\'

end Roster.Text.Percent
