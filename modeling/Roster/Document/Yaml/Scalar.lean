import Roster.Document.Data
import Roster.Number.Decimal

/-!
# Scalars in YAML

A plain scalar is nothing, a truth value or a number if it looks like one, and else a text; a
quoted one is always a text. A tag can say what a plain scalar is.

* `Scalar.data?` is the data of a scalar, and `Scalar.key?` the name that it gives in a table.
-/

namespace Roster.Document.Yaml

/-- A scalar as it is written. -/
structure Scalar where
  text : String
  plain : Bool
  tag : Option String
deriving DecidableEq

/-- What a scalar is. -/
inductive Meaning
  | null
  | bool (b : Bool)
  | integer (n : Int)
  /-- A number, which has to be one that documents can hold. -/
  | decimal (x : Option Binary64)
  | text
deriving DecidableEq

namespace Scalar

/-- A whole number of 64 bits with an optional sign. -/
def integer? (base : Nat) (cs : List Char) : Option Int :=
  let (negative, ds) := Binary64.cutSign cs
  if ds.isEmpty then none
  else (Text.value? base ds).bind fun n =>
    let n : Int := if negative then -(n : Int) else n
    if fitsInteger n then some n else none

/-- A whole number in base sixteen, eight or ten. A plus sign in front of it may stand before its
own sign. -/
def wholeNumber? (cs : List Char) : Option Int :=
  match cs with
  | '0' :: 'x' :: ds => integer? 16 ds
  | '0' :: 'o' :: ds => integer? 8 ds
  | '+' :: ds => integer? 10 ds
  | _ => integer? 10 cs

/-- The words for numbers without digits. -/
def numberWords : List String :=
  [".inf", ".Inf", ".INF", "+.inf", "+.Inf", "+.INF", "-.inf", "-.Inf", "-.INF", ".nan", ".NaN",
    ".NAN"]

/-- A number. Documents cannot hold those without digits. -/
def decimal? (s : String) : Option (Option Binary64) :=
  if numberWords.contains s then some none
  else if s.toList.any Char.isDigit then (Binary64.ofText? s.toList).map some
  else none

/-- What a plain scalar is that has no tag. -/
def plainMeaning (s : String) : Meaning :=
  if s = "" ∨ s = "~" ∨ s = "null" then .null
  else if s = "true" then .bool true
  else if s = "false" then .bool false
  else match wholeNumber? s.toList with
    | some n => .integer n
    | none =>
      match decimal? s with
      | some x => .decimal x
      | none => .text

/-- What a plain scalar is under a tag; one that does not suit the tag is nothing. -/
def taggedMeaning (tag s : String) : Meaning :=
  match tag with
  | "!!bool" => if s = "true" then .bool true else if s = "false" then .bool false else .null
  | "!!int" =>
    match integer? 10 s.toList with
    | some n => .integer n
    | none => .null
  | "!!float" =>
    match decimal? s with
    | some x => .decimal x
    | none => .null
  | "!!null" => .null
  | _ => .text

/-- What a scalar is. -/
def meaning (s : Scalar) : Meaning :=
  if !s.plain then .text
  else match s.tag with
    | some tag => taggedMeaning tag s.text
    | none => plainMeaning s.text

/-- The data of a scalar. -/
def data? (s : Scalar) : Option Data :=
  match s.meaning with
  | .null => some .null
  | .bool b => some (.bool b)
  | .integer n => some (.integer n)
  | .decimal x => x.map .decimal
  | .text => some (.text s.text)

/-- The name that a scalar gives in a table; nothing is no name. -/
def key? (s : Scalar) : Option String :=
  match s.meaning with
  | .null => none
  | .bool b => some (if b then "true" else "false")
  | .integer n => some (String.ofList (Text.integer n))
  | .decimal _ | .text => some s.text

/-- Whether two scalars stand for the same, so that they cannot both be names in one table. -/
def clashes (s t : Scalar) : Bool :=
  match s.meaning, t.meaning with
  | .text, .text | .decimal _, .decimal _ => s.text == t.text
  | m, n => m == n

end Scalar

end Roster.Document.Yaml
