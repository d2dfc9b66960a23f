import Roster.Ledger
import Roster.View

/-!
# What answers do to the registry

* `takeProbes` takes over the answers of members that were asked so that they may become active.
* `takeRefresh` takes over the answers of the active members, and with them the members that
  they list.

Answers are taken over in the order of the members that were asked. A member that did not
answer stays what it was.
-/

namespace Roster

open Log (Event Detail)

/-- What came of asking members that may become active. -/
structure ProbeReport where
  /-- The members that are active now, as they were when they became so. -/
  recovered : List Record := []
  /-- The members that did not answer, and why. -/
  failed : List (Record × Failure) := []

/-- What came of asking the active members. -/
structure RefreshReport where
  /-- The members that answered, as they were before. -/
  reached : List Record := []
  /-- The members that did not answer as themselves, and why. -/
  failed : List (Record × Failure) := []
  /-- The identifiers that any member listed. -/
  seen : List String := []
  /-- Whether any member listed members at all. -/
  sawTopology : Bool := false
  /-- How many members are new. -/
  added : Nat := 0
  /-- How many members have a new address. -/
  relocated : Nat := 0

namespace Discovery

/-- An event of the search for members. -/
def membershipEvent (level : Log.Level) (message : String) (details : List (String × Detail)) :
    Event :=
  ⟨level, "strata_cluster::discovery::membership", message, details⟩

/-- What is noted when a member did not answer. -/
def probeFailed (r : Record) : Failure → Event
  | .protocol _ reason =>
    membershipEvent .warn "Node answered with an unusable response, possible version mismatch"
      [("node", .text r.text), ("reason", .text reason)]
  | f => membershipEvent .warn "Node probe failed"
      [("node", .text r.text), ("error", .text f.message)]

/-- What is noted when a member answered under another identifier. -/
def otherAnswered (r : Record) (id : String) (v : TopologyView) : Event :=
  membershipEvent .warn "A different node now answers at this address"
    [("address", .text r.address.text), ("expected", .text id), ("actual", .text v.identifier)]

/-! ### Members that may become active -/

/-- Finds out which member answered, and yields it if it is to become active. A member that had
not told its identifier gets it; if its entry has gone meanwhile, the one under the identifier
counts. If another one answered than was asked, it is taken over as a listed one, and neither
is yielded. -/
def identify (r : Record) (v : TopologyView) (l : Ledger) : Option Record × Ledger :=
  match r.identifier with
  | none =>
    match l.resolve r.address v.identifier (some v.topologyHash) with
    | (.ok resolution, l) => (some resolution.record, l)
    | (.error _, l) =>
      let (_, l) := l.mergeMember v.identifier r.address (some v.topologyHash)
      (l.registry.get? v.identifier, l)
  | some id =>
    if id = v.identifier then (some r, l.updateHash id v.topologyHash)
    else
      let l := l.note (otherAnswered r id v)
      (none, (l.mergeMember v.identifier r.address (some v.topologyHash)).2)

/-- Takes over one view of a member that may become active. -/
def recover (r : Record) (v : TopologyView) (report : ProbeReport) (l : Ledger) :
    Except Failure ProbeReport × Ledger :=
  match identify r v l with
  | (none, l) => (.ok report, l)
  | (some current, l) =>
    match l.activate [current] with
    | (.ok _, l) => (.ok { report with recovered := report.recovered ++ [current] }, l)
    | (.error f, l) => (.error f, l)

/-- Takes over the answers of members that may become active. -/
def takeProbes : List (Record × Except Failure TopologyView) → ProbeReport → Ledger →
    Except Failure ProbeReport × Ledger
  | [], report, l => (.ok report, l)
  | (r, .error f) :: rest, report, l =>
    takeProbes rest { report with failed := report.failed ++ [(r, f)] } (l.note (probeFailed r f))
  | (r, .ok v) :: rest, report, l =>
    match recover r v report l with
    | (.ok report, l) => takeProbes rest report l
    | (.error f, l) => (.error f, l)

/-! ### Active members -/

/-- Takes over one member that another one listed. -/
def mergeListing (hash : String) (acc : RefreshReport × Ledger) (m : Listing) :
    RefreshReport × Ledger :=
  let (report, l) := acc
  let report := { report with seen := report.seen.insert m.identifier }
  match l.mergeMember m.identifier m.address (some hash) with
  | (.added, l) => ({ report with added := report.added + 1 }, l)
  | (.relocated, l) => ({ report with relocated := report.relocated + 1 }, l)
  | (.unchanged, l) => (report, l)

/-- Takes over the members that one of them listed, in the order of the list. -/
def mergeView (v : TopologyView) (acc : RefreshReport × Ledger) : RefreshReport × Ledger :=
  let (report, l) := acc
  let report := { report with sawTopology := report.sawTopology || !v.members.isEmpty }
  v.members.foldl (mergeListing v.topologyHash) (report, l)

/-- What is wrong with a member that answered under another identifier. -/
def impostor (r : Record) (v : TopologyView) : Failure :=
  .protocol r.address.text s!"answered as {v.identifier}"

/-- Notes what a member that answered told about itself, and yields what is wrong with it if it
answered under another identifier. -/
def acknowledge (r : Record) (v : TopologyView) (l : Ledger) : Option Failure × Ledger :=
  match r.identifier with
  | none => (none, l)
  | some id =>
    if id = v.identifier then (none, l.updateHash id v.topologyHash)
    else (some (impostor r v), l.note (otherAnswered r id v))

/-- Takes over one answer of an active member; what it lists is taken over if `merges`. -/
def takeRefreshOne (merges : Bool) (acc : RefreshReport × Ledger)
    (x : Record × Except Failure TopologyView) : RefreshReport × Ledger :=
  let (report, l) := acc
  match x with
  | (r, .error f) =>
    ({ report with failed := report.failed ++ [(r, f)] }, l.note (probeFailed r f))
  | (r, .ok v) =>
    let (fault, l) := acknowledge r v l
    let (report, l) := if merges then mergeView v (report, l) else (report, l)
    match fault with
    | some f => ({ report with failed := report.failed ++ [(r, f)] }, l)
    | none => ({ report with reached := report.reached ++ [r] }, l)

/-- What is noted at the end. -/
def refreshFinished (report : RefreshReport) : Event :=
  membershipEvent .debug "Topology refresh finished" [("reached", .number report.reached.length),
    ("failed", .number report.failed.length), ("added", .number report.added),
    ("relocated", .number report.relocated)]

/-- Takes over the answers of the active members. -/
def takeRefresh (merges : Bool) (answers : List (Record × Except Failure TopologyView))
    (l : Ledger) : RefreshReport × Ledger :=
  let (report, l) := answers.foldl (takeRefreshOne merges) ({}, l)
  (report, l.note (refreshFinished report))

end Discovery

end Roster
