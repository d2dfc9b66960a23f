import Roster.Document.Data

/-!
# Tables in TOML

A table is put together from several places in a document: from headers, and from names with
points. What has been given is never given again.

* `give?` gives data to a name with points, within the table at the end of a path.
* `open?` begins a table for a header, and `append?` one more table of a list of tables.
-/

namespace Roster.Document.Toml

/-- How a table came about. -/
inductive Kind
  /-- It is on the way to a table with a header of its own. -/
  | implied
  /-- It has a header. -/
  | headed
  /-- It is on the way of a name with points. -/
  | dotted
deriving DecidableEq

/-- What a name was given. -/
inductive Entry
  | data (d : Data)
  | table (kind : Kind) (members : List (String × Entry))
  /-- A list of tables, the last one first. -/
  | tables (ts : List (List (String × Entry)))

/-- The names in a table and what they were given. -/
abbrev Entries := List (String × Entry)

/-- Changes what a name was given. -/
def alter? (k : String) (f : Option Entry → Option Entry) : Entries → Option Entries
  | [] => (f none).map fun e => [(k, e)]
  | (k', e) :: es =>
    if k' = k then (f (some e)).map fun e => (k, e) :: es
    else (alter? k f es).map fun es => (k', e) :: es

/-- Gives data to a name with points. -/
def give? (d : Data) : List String → Entries → Option Entries
  | [], _ => none
  | [k], es => alter? k (fun e => if e.isSome then none else some (.data d)) es
  | k :: k' :: ks, es =>
    alter? k
      (fun
        | none => (give? d (k' :: ks) []).map (.table .dotted)
        | some (.table .headed _) => none
        | some (.table kind ms) => (give? d (k' :: ks) ms).map (.table kind)
        | some _ => none) es

/-- Changes the table at the end of a path; of a list of tables, the last one counts. -/
def within? (f : Entries → Option Entries) : List String → Entries → Option Entries
  | [], es => f es
  | k :: ks, es =>
    alter? k
      (fun
        | none => (within? f ks []).map (.table .implied)
        | some (.table kind ms) => (within? f ks ms).map (.table kind)
        | some (.tables (ms :: ts)) => (within? f ks ms).map fun ms => .tables (ms :: ts)
        | some _ => none) es

/-- Begins a table with a header. -/
def begin? (k : String) (es : Entries) : Option Entries :=
  alter? k
    (fun
      | none => some (.table .headed [])
      | some (.table .implied ms) => some (.table .headed ms)
      | some _ => none) es

/-- Adds a table to a list of tables. -/
def append? (k : String) (es : Entries) : Option Entries :=
  alter? k
    (fun
      | none => some (.tables [[]])
      | some (.tables ts) => some (.tables ([] :: ts))
      | some _ => none) es

/-- Begins what a header announces: a table, or one more table of a list. -/
def open? (listed : Bool) (path : List String) (es : Entries) : Option Entries :=
  path.getLast?.bind fun k =>
    within? (if listed then append? k else begin? k) path.dropLast es

mutual

/-- The data that a name was given. -/
def Entry.toData : Entry → Data
  | .data d => d
  | .table _ ms => .table (entriesData ms)
  | .tables ts => .list (tablesData ts).reverse

/-- The data of a table. -/
def entriesData : Entries → List (String × Data)
  | [] => []
  | (k, e) :: es => (k, e.toData) :: entriesData es

/-- The data of tables. -/
def tablesData : List Entries → List Data
  | [] => []
  | t :: ts => .table (entriesData t) :: tablesData ts

end

end Roster.Document.Toml
