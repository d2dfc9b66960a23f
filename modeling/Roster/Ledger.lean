import Roster.Log.Event
import Roster.Registry.Basic
import Roster.Selector

/-!
# What the activities of a pool share

A ledger is the registry together with the time, the selector and the events noted so far. Each
change of the registry notes what it did.

* `Ledger.add`, `activate`, `deactivate`, `resolve`, `mergeMember` and `updateHash` change the
  registry as the functions of the same names do.
* `newcomers` and `movers` are the records that a change is noted for.
-/

namespace Roster

open Log (Event Detail)

/-- What the activities of a pool share. -/
structure Ledger where
  now : Instant
  registry : Registry
  selector : Selector
  events : List Event

namespace Ledger

/-- A ledger with an empty registry. -/
def start (now : Instant) (strategy : Strategy) : Ledger := ⟨now, .empty, .new strategy, []⟩

/-- Notes an event. -/
def note (e : Event) (l : Ledger) : Ledger := { l with events := l.events ++ [e] }

/-- Notes events, the first one first. -/
def noteAll (es : List Event) (l : Ledger) : Ledger := { l with events := l.events ++ es }

/-- Changes the registry, and notes what that did. -/
def put (reg : Registry) (es : List Event) (l : Ledger) : Ledger :=
  { l with registry := reg, events := l.events ++ es }

/-- An event of the registry. -/
def registryEvent (level : Log.Level) (message : String) (details : List (String × Detail)) :
    Event :=
  ⟨level, "strata_cluster::discovery::node_registry", message, details⟩

/-- The records that have no entry yet; of several with one key, the first one. -/
def newcomers (records : List Record) (reg : Registry) : List Record :=
  (records.filter fun r => !reg.contains r.key).eraseDupsBy fun r s => r.key == s.key

/-- Enters records as inactive. -/
def add (records : List Record) (l : Ledger) : Ledger :=
  l.put (l.registry.add l.now records) <| (newcomers records l.registry).map fun r =>
    registryEvent .debug "Node added to registry" [("node", .text r.text)]

/-- The records of the entries that get another status. -/
def movers (active : Bool) (records : List Record) (reg : Registry) : List Record :=
  (records.map Record.key).eraseDups.filterMap fun k =>
    ((reg.find? k).filter fun e => e.active != active).map Entry.record

/-- What is noted when entries get a status. -/
def statusEvents (active : Bool) (records : List Record) (reg : Registry) : List Event :=
  match reg.missing? records with
  | some k => [registryEvent .error "Node is in neither the active nor the inactive set"
      [("node", .text k.text)]]
  | none => (movers active records reg).map fun r =>
      if active then registryEvent .info "Node activated" [("node", .text r.text)]
      else registryEvent .warn "Node deactivated" [("node", .text r.text)]

/-- Gives the entries of some records a status, and counts those for which it changed. -/
def setStatus (active : Bool) (records : List Record) (l : Ledger) :
    Except Failure Nat × Ledger :=
  let (n, reg) := l.registry.setStatus l.now active records
  (n, l.put reg (statusEvents active records l.registry))

/-- Makes members active. -/
def activate (records : List Record) (l : Ledger) : Except Failure Nat × Ledger :=
  l.setStatus true records

/-- Makes members inactive. -/
def deactivate (records : List Record) (l : Ledger) : Except Failure Nat × Ledger :=
  l.setStatus false records

/-- What is noted when the member at an address told its identifier. -/
def resolutionEvents (a : Address) (id : String) :
    Except Failure Registry.Resolution → List Event
  | .ok (.resolved _) => [registryEvent .debug "Seed resolved"
      [("address", .text a.text), ("node_id", .text id)]]
  | .ok (.merged _) => [registryEvent .debug "Seed resolved to an already registered node"
      [("address", .text a.text), ("node_id", .text id)]]
  | .error _ => []

/-- Gives the member at an address the identifier that it told. -/
def resolve (a : Address) (id : String) (hash : Option String) (l : Ledger) :
    Except Failure Registry.Resolution × Ledger :=
  let (r, reg) := l.registry.resolve a id hash
  (r, l.put reg (resolutionEvents a id r))

/-- What is noted when one member listed another. -/
def mergeEvents (id : String) (a : Address) (reg : Registry) :
    Registry.MergeOutcome → List Event
  | .added => [registryEvent .info "Discovered new node"
      [("node", .text (Record.resolved a id none).text)]]
  | .relocated => [registryEvent .info "Node address changed" [("node_id", .text id),
      ("from", .text (((reg.get? id).map fun r => r.address.text).getD "")),
      ("to", .text a.text)]]
  | .unchanged => []

/-- Takes over one member that another one listed. -/
def mergeMember (id : String) (a : Address) (hash : Option String) (l : Ledger) :
    Registry.MergeOutcome × Ledger :=
  let (r, reg) := l.registry.mergeMember l.now id a hash
  (r, l.put reg (mergeEvents id a l.registry r))

/-- Notes which list of members a member uses. -/
def updateHash (id hash : String) (l : Ledger) : Ledger :=
  l.put (l.registry.updateHash id hash) []

/-! ### The registry after a change -/

@[simp]
theorem registry_note (e : Event) (l : Ledger) : (l.note e).registry = l.registry := rfl

@[simp]
theorem registry_noteAll (es : List Event) (l : Ledger) :
    (l.noteAll es).registry = l.registry := rfl

@[simp]
theorem registry_put (reg : Registry) (es : List Event) (l : Ledger) :
    (l.put reg es).registry = reg := rfl

@[simp]
theorem registry_add (records : List Record) (l : Ledger) :
    (l.add records).registry = l.registry.add l.now records := rfl

@[simp]
theorem registry_setStatus (active : Bool) (records : List Record) (l : Ledger) :
    (l.setStatus active records).2.registry = (l.registry.setStatus l.now active records).2 :=
  rfl

@[simp]
theorem registry_resolve (a : Address) (id : String) (hash : Option String) (l : Ledger) :
    (l.resolve a id hash).2.registry = (l.registry.resolve a id hash).2 := rfl

@[simp]
theorem registry_mergeMember (id : String) (a : Address) (hash : Option String) (l : Ledger) :
    (l.mergeMember id a hash).2.registry = (l.registry.mergeMember l.now id a hash).2 := rfl

@[simp]
theorem registry_updateHash (id hash : String) (l : Ledger) :
    (l.updateHash id hash).registry = l.registry.updateHash id hash := rfl

end Ledger

end Roster
