import Roster.Document.Data
import Roster.Settings.Path

/-!
# Settings from several sources

A tree is nested data in which everything that is no table remembers the source that it comes
from. Sources are put into one tree one after the other: tables are merged name by name, and
everything else replaces what was there.

* `Tree.ofData` is the tree of one source.
* `Tree.put` puts data at a path, and `Tree.putAll` the settings of a source.
-/

namespace Roster.Settings

open Document (Data)

/-- Data that is neither a list nor a table. -/
inductive Scalar
  | null
  | bool (b : Bool)
  | integer (n : Int)
  | decimal (x : Binary64)
  | text (s : String)
deriving DecidableEq

/-- Nested data and the sources that it comes from. A table that was merged from sources has
none itself. -/
inductive Tree
  | scalar (origin : Option String) (s : Scalar)
  | list (origin : Option String) (items : List Tree)
  | table (origin : Option String) (members : List (String × Tree))

namespace Tree

/-- Nothing, from nowhere. -/
def blank : Tree := scalar none .null

mutual

/-- The tree of data from a source. -/
def ofData (origin : Option String) : Data → Tree
  | .null => scalar origin .null
  | .bool b => scalar origin (.bool b)
  | .integer n => scalar origin (.integer n)
  | .decimal x => scalar origin (.decimal x)
  | .text s => scalar origin (.text s)
  | .list items => list origin (ofItems origin items)
  | .table members => table origin (ofMembers origin members)

/-- The trees of the items of a list. -/
def ofItems (origin : Option String) : List Data → List Tree
  | [] => []
  | d :: ds => ofData origin d :: ofItems origin ds

/-- The trees of the members of a table. Of those with one name, the last one counts. -/
def ofMembers (origin : Option String) : List (String × Data) → List (String × Tree)
  | [] => []
  | (k, d) :: ds =>
    if ds.any fun m => m.1 == k then ofMembers origin ds
    else (k, ofData origin d) :: ofMembers origin ds

end

/-! ### Changing a tree -/

/-- The source and the members of a table; anything else counts as an empty table. -/
def asTable : Tree → Option String × List (String × Tree)
  | table origin ms => (origin, ms)
  | _ => (none, [])

/-- The source and the items of a list; anything else counts as an empty list. -/
def asList : Tree → Option String × List Tree
  | list origin items => (origin, items)
  | _ => (none, [])

/-- Changes the member with a name, which is blank if there is none. -/
def changeMember (k : String) (f : Tree → Tree) : List (String × Tree) → List (String × Tree)
  | [] => [(k, f blank)]
  | (k', t) :: ms => if k' = k then (k', f t) :: ms else (k', t) :: changeMember k f ms

/-- Changes the item at a place; a list that is too short is filled with blanks. -/
def changeItem (f : Tree → Tree) : Nat → List Tree → List Tree
  | 0, [] => [f blank]
  | 0, t :: ts => f t :: ts
  | n + 1, [] => blank :: changeItem f n []
  | n + 1, t :: ts => t :: changeItem f n ts

/-- Changes the item at a place that may count from the end; blanks are put in front of a list
that does not reach so far back. -/
def changePlace (f : Tree → Tree) (n : Int) (items : List Tree) : List Tree :=
  if 0 ≤ n then changeItem f n.toNat items
  else if n.natAbs ≤ items.length then changeItem f (items.length - n.natAbs) items
  else changeItem f 0 (List.replicate (n.natAbs - items.length) blank ++ items)

/-- Changes what is at the end of a path. What stands in its way gives way. -/
def changeAt (f : Tree → Tree) : Path → Tree → Tree
  | [], t => f t
  | .name k :: ps, t =>
    let (origin, ms) := t.asTable
    table origin (changeMember k (changeAt f ps) ms)
  | .place n :: ps, t =>
    let (origin, items) := t.asList
    list origin (changePlace (changeAt f ps) n items)

mutual

/-- What becomes of data when other data is put in its place: tables are merged. -/
def merge : Tree → Tree → Tree
  | table _ ms, old =>
    let (origin, olds) := old.asTable
    table origin (mergeMembers ms olds)
  | t, _ => t

/-- Merges the members of a table into others. -/
def mergeMembers : List (String × Tree) → List (String × Tree) → List (String × Tree)
  | [], olds => olds
  | (k, t) :: ms, olds => mergeMembers ms (changeMember k (merge t) olds)

end

/-- Puts data at a path. -/
def put (root : Tree) (p : Path) (t : Tree) : Tree := changeAt (merge t) p root

/-- Puts the settings of a source into a tree, each under the path that its name stands for. -/
def putAll (root : Tree) (settings : List (String × Tree)) : Tree :=
  settings.foldl (fun root s => root.put (.ofText s.1) s.2) root

/-- The tree without settings. -/
def empty : Tree := table none []

end Tree

end Roster.Settings
