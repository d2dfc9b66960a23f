import Roster.Domain.Mapping
import Roster.Domain.Composition
import Roster.Domain.Joining
import Roster.Domain.Direction
import Roster.Domain.Punycode
import Roster.Text.Pieces
import Roster.Text.Utf8

/-!
# The ASCII form of a host name

A name in any script is mapped, brought into normal form and cut at its dots; each label is
checked and, if need be, written in code behind `xn--`.

* `Name.ofBytes?` gives the ASCII form of the name that some bytes spell.
* `Name.forbidden` tells the ASCII characters that no name may have.
-/

namespace Roster.Domain.Name

/-- Whether a character is outside what a host name in ASCII may have. -/
def forbidden (c : Char) : Bool :=
  c.toNat ≤ 0x20 || c.toNat == 0x7F || "#/:<>?@[\\]^|%".toList.contains c

/-- Whether a text is ASCII. -/
def isAscii (cs : List Char) : Bool := cs.all fun c => c.toNat < 0x80

/-- The mark in front of a label in code. -/
def mark : List Char := ['x', 'n', '-', '-']

/-- The label in code that stands for `cs`, which must be worth coding and already mapped. -/
def decoded? (cs : List Char) : Option (List Char) := do
  let ds ← Punycode.decode? cs
  if isAscii ds || mark.isPrefixOf ds || !Composition.isNormal ds ||
      !ds.all Mapping.isKept then none
  else some ds

/-- How long a code may be that is read. -/
def codeLimit : Nat := 2000

/-- How long a label may be that is written in code. -/
def wordLimit : Nat := 1000

/-- A label as it is written in code, and as it is read. -/
def label? (cs : List Char) : Option (List Char × List Char) :=
  if mark.isPrefixOf cs then
    if isAscii cs ∧ (cs.drop mark.length).length ≤ codeLimit then
      (decoded? (cs.drop mark.length)).map (cs, ·)
    else none
  else if isAscii cs then some (cs, cs)
  else if cs.length ≤ wordLimit then some (mark ++ Punycode.encode cs, cs)
  else none

/-- Whether a label as it is read starts with a letter and has joiners only where they fit. -/
def wellFormed (cs : List Char) : Bool :=
  isAscii cs || (!(cs.head?.map Joining.isMark).getD false && Joining.joinersFit [] cs)

/-- The name in normal form; ASCII is its own normal form. -/
def normal (cs : List Char) : List Char :=
  if isAscii cs then cs else Composition.normal cs

/-- The ASCII form of a name. -/
def ascii? (cs : List Char) : Option (List Char) := do
  let mapped ← Mapping.mapText? cs
  let labels ← (Text.pieces (· == '.') (normal mapped)).mapM label?
  let read := labels.map Prod.snd
  if !read.all wellFormed then none
  else if !read.all isAscii && read.any Direction.isMixed && !read.all Direction.fits then none
  else
    let text := Text.joined '.' (labels.map Prod.fst)
    if text.any forbidden then none else some text

/-- The ASCII form of the name that the bytes spell. -/
def ofBytes? (bytes : List UInt8) : Option (List Char) := Text.Utf8.decode bytes >>= ascii?

end Roster.Domain.Name
