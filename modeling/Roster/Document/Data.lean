import Roster.Number.Binary64

/-!
# The data of a document

Documents of all formats hold the same kinds of data: nothing, truth values, numbers, texts,
lists, and tables that give names to data.
-/

namespace Roster.Document

/-- The data of a document. A name that is given twice in a table counts where it stands last. -/
inductive Data
  | null
  | bool (b : Bool)
  | integer (n : Int)
  | decimal (x : Binary64)
  | text (s : String)
  | list (items : List Data)
  | table (members : List (String × Data))

/-- What a document is about: the members of its table, if it is one. -/
def Data.members? : Data → Option (List (String × Data))
  | table ms => some ms
  | _ => none

/-- Whole numbers in a document have 64 bits. -/
def fitsInteger (n : Int) : Bool := decide (-(Nat.pow 2 63) ≤ n) && decide (n < Nat.pow 2 63)

end Roster.Document
