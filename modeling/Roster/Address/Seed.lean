import Roster.Address.Reader
import Roster.Failure

/-!
# Addresses of nodes

A node is named by an address with a host. The scheme may be left out; it is then `http`.

* `Address.readSeed` reads such a text, and `Address.ofNodeText` explains what is wrong with it.
-/

namespace Roster.Address

/-- What separates a scheme that is written out from the rest. -/
def schemeMark : List Char := [':', '/', '/']

/-- The scheme that is meant where none is written, and its mark. -/
def usualScheme : List Char := ['h', 't', 't', 'p', ':', '/', '/']

/-- Whether a text has the mark of a scheme in it. -/
def hasScheme : List Char → Bool
  | [] => false
  | c :: cs => schemeMark.isPrefixOf (c :: cs) || hasScheme cs

/-- The text of a node address with its scheme. -/
def withScheme (cs : List Char) : List Char := if hasScheme cs then cs else usualScheme ++ cs

/-- Reads the address of a node, which must have a host. -/
def readSeedChars (text : List Char) : Except Fault Address := do
  let a ← readChars (withScheme (Text.trim text))
  if a.host? = none then throw .emptyHost
  return a

/-- Reads the address of a node. -/
def readSeed (text : String) : Except Fault Address := readSeedChars text.toList

/-- What is wrong with a pool that should use a text as the address of a node. -/
def badNodeText (text : String) (fault : Fault) : Failure :=
  let reason := fault.message
  .configuration s!"invalid node address '{text}': {reason}"

/-- The address of a node that a pool is to use. -/
def ofNodeText (text : String) : Except Failure Address :=
  match readSeed text with
  | .ok a => .ok a
  | .error f => .error (badNodeText text f)

end Roster.Address
