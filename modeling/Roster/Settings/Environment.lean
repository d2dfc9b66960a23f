import Roster.Number.Decimal
import Roster.Settings.Tree
import Roster.Text.Lowercase
import Roster.Text.Pieces

/-!
# Settings from the environment

A variable whose name begins with `STRATA_`, in any case, is a setting: the rest of the name in
lower case is its path, with two underscores for each point.

* `Environment.settings` are the settings of the variables.
* `Environment.scalar` is the data that the value of a variable stands for.
-/

namespace Roster.Settings

/-- The variables of an environment. -/
abbrev Environment := List (String × String)

namespace Environment

/-- The variable with a name. -/
def get? (env : Environment) (name : String) : Option String :=
  (env.find? fun v => v.1 == name).map Prod.snd

/-- What the names of settings begin with. -/
def mark : List Char := "strata_".toList

/-- Writes a point for every two underscores. -/
def pointed : List Char → List Char
  | '_' :: '_' :: cs => '.' :: pointed cs
  | c :: cs => c :: pointed cs
  | [] => []

/-- The path of the setting that a variable is, if it is one. -/
def key? (name : String) : Option String :=
  let cs := Text.lower name.toList
  if mark.isPrefixOf cs then some (String.ofList (pointed (cs.drop mark.length))) else none

/-- A whole number with an optional sign. -/
def integer? (cs : List Char) : Option Int :=
  let (negative, ds) := Binary64.cutSign cs
  (Text.decimal? ds).bind fun n =>
    let n : Int := if negative then -(n : Int) else n
    if Document.fitsInteger n then some n else none

/-- The data that a value stands for: a truth value, a number, or else itself. -/
def scalar (value : String) : Scalar :=
  let word := Text.lower value.toList
  if word = "true".toList then .bool true
  else if word = "false".toList then .bool false
  else match integer? value.toList with
    | some n => .integer n
    | none =>
      match Binary64.ofText? value.toList with
      | some x => .decimal x
      | none => .text value

/-- What the source of these settings is called. -/
def origin : Option String := some "the environment"

/-- The settings that are lists of texts. -/
def lists : List String := ["cluster.seeds"]

/-- The setting that a value stands for. A list of texts is separated by commas, unless the value
as a whole is a truth value or a number. -/
def tree (key value : String) : Tree :=
  match scalar value with
  | .text s =>
    if lists.contains key then
      .list origin ((Text.pieces (· == ',') s.toList).map fun w =>
        .scalar origin (.text (String.ofList w)))
    else .scalar origin (.text s)
  | s => .scalar origin s

/-- The settings of the variables. -/
def settings (env : Environment) : List (String × Tree) :=
  env.filterMap fun (name, value) => (key? name).map fun key => (key, tree key value)

end Environment

end Roster.Settings
