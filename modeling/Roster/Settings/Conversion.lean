import Roster.Number.Shortest
import Roster.Settings.Tree
import Roster.Text.Lowercase
import Roster.Text.Visible

/-!
# Settings as values

Settings come from texts of many kinds, so a value is taken from all data that can mean it: a
number from digits or a truth value, a truth value from words or a number, a text from both.

* `Tree.natural`, `Tree.truth` and `Tree.text` are the conversions, `Tree.optional` leaves nothing
  as it is.
* `Mismatch.message` explains why data cannot be converted.
-/

namespace Roster.Settings

/-- Why data is no value for a setting. -/
inductive Mismatch.Cause
  /-- It is of another kind than is asked for. -/
  | wrongKind (found expected : String)
  /-- It is none of the names of a choice. -/
  | unknownName (choice name : String)
  /-- It has no name in it. -/
  | noName (choice : String)
deriving DecidableEq

/-- Why a setting cannot be used: the cause, the setting, and the source that it comes from. -/
structure Mismatch where
  cause : Mismatch.Cause
  key : String
  origin : Option String
deriving DecidableEq

/-- The text that explains a cause. -/
def Mismatch.Cause.message : Mismatch.Cause → String
  | wrongKind found expected => s!"invalid type: {found}, expected {expected}"
  | unknownName choice name => s!"enum {choice} does not have variant constructor {name}"
  | noName choice => s!"value of enum {choice} should be represented by either string or table " ++
      "with exactly one key"

/-- The text that explains why a setting cannot be used. -/
def Mismatch.message (m : Mismatch) : String :=
  let cause := m.cause.message
  let source := match m.origin with
    | some origin => s!" in {origin}"
    | none => ""
  s!"{cause} for key `{m.key}`{source}"

/-! ### What is found -/

/-- A whole number in decimal. -/
def integerText (n : Int) : String := String.ofList (Text.integer n)

/-- A number with a point in it, if it has digits. -/
def pointed (x : Binary64) : String :=
  match x with
  | .finite .. => if x.text.toList.contains '.' then x.text else x.text ++ ".0"
  | _ => x.text

/-- What is found where a list or several settings are asked for. -/
def Tree.found : Tree → String
  | scalar _ .null => "unit value"
  | scalar _ (.bool b) => s!"boolean `{b}`"
  | scalar _ (.integer n) => "integer `" ++ integerText n ++ "`"
  | scalar _ (.decimal x) => "floating point `" ++ pointed x ++ "`"
  | scalar _ (.text s) => "string " ++ Text.shown s
  | list .. => "sequence"
  | table .. => "map"

/-- The source of data. -/
def Tree.origin? : Tree → Option String
  | scalar origin _ => origin
  | list origin _ => origin
  | table origin _ => origin

namespace Tree

/-- That data is of another kind than the setting `key` asks for. -/
def refuse {α : Type} (t : Tree) (key found expected : String) : Except Mismatch α :=
  .error ⟨.wrongKind found expected, key, t.origin?⟩

/-! ### Conversions -/

/-- The largest number that a setting can be. -/
def largest : Nat := Nat.pow 2 64 - 1

/-- A number that is written as a text, or as a word for yes or no. -/
def naturalOfText? (s : String) : Option Nat :=
  let word := String.ofList (Text.lower s.toList)
  if ["true", "on", "yes"].contains word then some 1
  else if ["false", "off", "no"].contains word then some 0
  else (Text.signedDecimal? s.toList).bind fun n => if n ≤ largest then some n else none

/-- A whole number. Numbers with a fraction are rounded, and cut off at the largest one. -/
def natural (key : String) (t : Tree) : Except Mismatch Nat :=
  match t with
  | scalar _ (.integer n) =>
    if n < 0 then t.refuse key ("64-bit integer `" ++ integerText n ++ "`")
      "an unsigned 64 bit or less integer"
    else .ok n.toNat
  | scalar _ (.decimal x) => .ok (x.roundHalfAway largest)
  | scalar _ (.bool b) => .ok (if b then 1 else 0)
  | scalar _ (.text s) =>
    match naturalOfText? s with
    | some n => .ok n
    | none => t.refuse key ("string " ++ Text.shown s) "an integer"
  | t => t.refuse key t.found "an integer"

/-- Whether a number is not zero. -/
def isNonzero : Binary64 → Bool
  | .finite _ m _ => m != 0
  | _ => true

/-- A truth value. -/
def truth (key : String) (t : Tree) : Except Mismatch Bool :=
  match t with
  | scalar _ (.bool b) => .ok b
  | scalar _ (.integer n) => .ok (n != 0)
  | scalar _ (.decimal x) => .ok (isNonzero x)
  | scalar _ (.text s) =>
    let word := String.ofList (Text.lower s.toList)
    if ["1", "true", "on", "yes"].contains word then .ok true
    else if ["0", "false", "off", "no"].contains word then .ok false
    else t.refuse key ("string " ++ Text.shown word) "a boolean"
  | t => t.refuse key t.found "a boolean"

/-- A text. -/
def text (key : String) (t : Tree) : Except Mismatch String :=
  match t with
  | scalar _ (.text s) => .ok s
  | scalar _ (.bool b) => .ok (if b then "true" else "false")
  | scalar _ (.integer n) => .ok (integerText n)
  | scalar _ (.decimal x) => .ok x.text
  | t => t.refuse key t.found "a string"

/-- A value or nothing. -/
def optional {α : Type} (convert : String → Tree → Except Mismatch α) (key : String) (t : Tree) :
    Except Mismatch (Option α) :=
  match t with
  | scalar _ .null => .ok none
  | t => (convert key t).map some

/-- The key of the item at a place of a list. -/
def placeKey (key : String) (i : Nat) : String := s!"{key}[{i}]"

/-- Texts, one after the other; the first one stands at the place `i`. -/
def textsFrom (key : String) : Nat → List Tree → Except Mismatch (List String)
  | _, [] => .ok []
  | i, t :: ts => do return (← text (placeKey key i) t) :: (← textsFrom key (i + 1) ts)

/-- A list of texts. -/
def texts (key : String) (t : Tree) : Except Mismatch (List String) :=
  match t with
  | list _ items => textsFrom key 0 items
  | t => .error ⟨.wrongKind t.found "a sequence", key, none⟩

/-- The name of a choice: a text, or the only name in a table. -/
def choiceName? : Tree → Option String
  | scalar _ (.text s) => some s
  | table _ [(k, _)] => some k
  | _ => none

/-- One of the named values of a choice. -/
def choice {α : Type} (kind : String) (ofName? : String → Option α) (key : String) (t : Tree) :
    Except Mismatch α :=
  match choiceName? t with
  | none => .error ⟨.noName kind, key, none⟩
  | some name =>
    match ofName? name with
    | some a => .ok a
    | none => .error ⟨.unknownName kind name, key, none⟩

end Tree

end Roster.Settings
