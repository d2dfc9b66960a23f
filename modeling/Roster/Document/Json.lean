import Roster.Document.Data
import Roster.Json.Number
import Roster.Json.Reader

/-!
# Documents in JSON

`Json.document?` is the data of a text in JSON. Numbers that are not whole, or too large, are
rounded.
-/

namespace Roster.Json

open Document (Data)

/-- The data of a number. -/
def Number.data : Number → Data
  | .natural n => if n < Nat.pow 2 63 then .integer n else .decimal (.ofNat false n)
  | .negative n => .integer (-(n : Int))
  | .binary x => .decimal x

namespace Value

mutual

/-- The data of a value, unless a number in it is too large for any. -/
def data? : Value → Option Data
  | null => some .null
  | bool b => some (.bool b)
  | number n => n.number?.map Number.data
  | text cs => some (.text (String.ofList cs))
  | list vs => (dataOfItems? vs).map .list
  | table ms => (dataOfMembers? ms).map .table

/-- The data of the items of a list. -/
def dataOfItems? : List Value → Option (List Data)
  | [] => some []
  | v :: vs => do return (← data? v) :: (← dataOfItems? vs)

/-- The data of the members of a table. -/
def dataOfMembers? : List (List Char × Value) → Option (List (String × Data))
  | [] => some []
  | (k, v) :: ms => do return (String.ofList k, ← data? v) :: (← dataOfMembers? ms)

end

end Value

/-- The data of a text. -/
def document? (cs : List Char) : Option Data := (Value.ofText cs).toOption.bind Value.data?

end Roster.Json
