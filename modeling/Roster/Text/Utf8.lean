/-!
# Bytes of text

`Utf8.encode` writes a text as bytes. Bytes need not be those of a text: `Utf8.scan` takes them
apart into characters and bytes that belong to none, which are stray continuation bytes and the
first ones of forms longer than needed, of surrogates and of values above `U+10FFFF`.

* `Utf8.decode` refuses bytes if one of them belongs to no character.
* `Utf8.decodeWith` puts a mark in place of such bytes.
-/

namespace Roster.Text.Utf8

/-- The bytes of a text. -/
def encode (cs : List Char) : List UInt8 := cs.flatMap String.utf8EncodeChar

/-- The six payload bits of a continuation byte. -/
def tail? (b : UInt8) : Option Nat :=
  if 0x80 ≤ b.toNat ∧ b.toNat < 0xC0 then some (b.toNat - 0x80) else none

/-- The character with number `n`, if `n` is at least `least` and numbers a character. -/
def scalar? (least n : Nat) : Option Char :=
  if h : n.isValidChar then
    if least ≤ n then some (Char.ofNatAux n h) else none
  else none

/-- The character that begins with a byte, and how many of the next bytes belong to it. -/
def first? (a : UInt8) (bs : List UInt8) : Option (Char × Nat) :=
  let n := a.toNat
  if n < 0x80 then (scalar? 0 n).map (·, 0)
  else if 0xC0 ≤ n ∧ n < 0xE0 then
    match bs with
    | b :: _ => do
      let x ← tail? b
      let c ← scalar? 0x80 ((n - 0xC0) * 64 + x)
      return (c, 1)
    | _ => none
  else if 0xE0 ≤ n ∧ n < 0xF0 then
    match bs with
    | b :: d :: _ => do
      let x ← tail? b
      let y ← tail? d
      let c ← scalar? 0x800 (((n - 0xE0) * 64 + x) * 64 + y)
      return (c, 2)
    | _ => none
  else if 0xF0 ≤ n ∧ n < 0xF8 then
    match bs with
    | b :: d :: e :: _ => do
      let x ← tail? b
      let y ← tail? d
      let z ← tail? e
      let c ← scalar? 0x10000 ((((n - 0xF0) * 64 + x) * 64 + y) * 64 + z)
      return (c, 3)
    | _ => none
  else none

/-- The characters of some bytes, and `none` for every byte that belongs to no character; the first
`more` bytes belong to a character that has been read. -/
def scanFrom : Nat → List UInt8 → List (Option Char)
  | _, [] => []
  | more + 1, _ :: bs => scanFrom more bs
  | 0, b :: bs =>
    match first? b bs with
    | some (c, more) => some c :: scanFrom more bs
    | none => none :: scanFrom 0 bs

/-- The characters of some bytes, and `none` for every byte that belongs to no character. -/
def scan (bs : List UInt8) : List (Option Char) := scanFrom 0 bs

/-- The text that the bytes encode. -/
def decode (bs : List UInt8) : Option (List Char) := (scan bs).mapM id

/-- The text that the bytes encode, with a mark in place of every byte that belongs to no
character. -/
def decodeWith (mark : List Char) (bs : List UInt8) : List Char :=
  (scan bs).flatMap fun c => c.elim mark ([·])

end Roster.Text.Utf8
