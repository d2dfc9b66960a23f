import Roster.Settings.Basic
import Roster.Settings.Conversion

/-!
# Reading settings from a tree

`Settings.ofTree` takes every setting that a tree has from it, and the default of every other one.
Settings stand in a table under their names, or in a list in their order; what is not known is
passed over.
-/

namespace Roster

open Settings (Tree Mismatch)

namespace Settings

/-- Finds the setting with a name at a place of the order, and the key that it has. -/
abbrev Finder := Nat → String → Option (String × Tree)

/-- The settings that data holds; `kind` is what they are called together. -/
def Tree.finder (kind key : String) (t : Tree) : Except Mismatch Finder :=
  match t with
  | table _ ms => .ok fun _ name =>
    (ms.find? fun m => m.1 == name).map fun m => (s!"{key}.{name}", m.2)
  | list _ items => .ok fun i _ => items[i]?.map fun t => (Tree.placeKey key i, t)
  | t => .error ⟨.wrongKind t.found s!"struct {kind}", key, none⟩

/-- The setting with a name, or its default. -/
def Finder.get {α : Type} (find : Finder) (i : Nat) (name : String) (default : α)
    (convert : String → Tree → Except Mismatch α) : Except Mismatch α :=
  match find i name with
  | some (key, t) => convert key t
  | none => .ok default

end Settings

/-- The settings of a cluster. -/
def ClusterSettings.ofTree (key : String) (t : Tree) : Except Mismatch ClusterSettings := do
  let find ← t.finder "ClusterConfig" key
  let d : ClusterSettings := {}
  return {
    seeds := ← find.get 0 "seeds" d.seeds Tree.texts
    requestTimeoutMs := ← find.get 1 "request_timeout_ms" d.requestTimeoutMs Tree.natural
    watchIntervalMs := ← find.get 2 "watch_interval_ms" d.watchIntervalMs Tree.natural
    discover := ← find.get 3 "discover" d.discover Tree.truth
    watch := ← find.get 4 "watch" d.watch Tree.truth
    gossipMaxAgeSecs :=
      ← find.get 5 "gossip_max_age_secs" d.gossipMaxAgeSecs (Tree.optional Tree.natural)
    selection :=
      ← find.get 6 "selection" d.selection (Tree.choice "SelectionStrategy" Strategy.ofName?) }

/-- The settings of the logging. -/
def LoggingSettings.ofTree (key : String) (t : Tree) : Except Mismatch LoggingSettings := do
  let find ← t.finder "LoggingConfig" key
  let d : LoggingSettings := {}
  return {
    level := ← find.get 0 "level" d.level Tree.text
    format := ← find.get 1 "format" d.format Tree.text
    filePath := ← find.get 2 "file_path" d.filePath (Tree.optional Tree.text) }

/-- The settings of the program, from the table of all of them. -/
def Settings.ofTree (root : Tree) : Except Mismatch Settings := do
  let (_, ms) := root.asTable
  let find : Settings.Finder := fun _ name =>
    (ms.find? fun m => m.1 == name).map fun m => (name, m.2)
  let d : Settings := {}
  return {
    cluster := ← find.get 0 "cluster" d.cluster ClusterSettings.ofTree
    logging := ← find.get 1 "logging" d.logging LoggingSettings.ofTree }

end Roster
