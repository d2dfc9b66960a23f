import Roster.Activity
import Roster.Discovery.Answers

/-!
# Finding the members of a cluster

* `Discovery.bootstrap` enters the members to start from and asks them.
* `Discovery.probeNodes` asks members that may become active.
* `Discovery.refresh` asks the active members and takes over the ones that they list. It makes
  nobody inactive.

Members are asked together, and their answers are taken over at once when the last one is known.
-/

namespace Roster

/-- How members are found. -/
structure Discovery where
  /-- How long one answer may take. -/
  timeout : Duration
  /-- Whether members are taken over that others list. -/
  merges : Bool

namespace Discovery

variable {τ : Type}

/-- Asks members, and makes those active that answer. -/
def probeNodes (d : Discovery) (records : List Record) :
    Activity τ (Except Failure ProbeReport) := do
  let answers ← Activity.probeAll d.timeout (records.map Record.address)
  Activity.change (takeProbes (records.zip answers) {})

/-- Asks the active members, and takes over the ones that they list. -/
def refresh (d : Discovery) : Activity τ RefreshReport := do
  let active ← Activity.look fun l => l.registry.active
  let answers ← Activity.probeAll d.timeout (active.map Record.address)
  Activity.change (takeRefresh d.merges (active.zip answers))

/-- What is wrong if there is nothing to start from. -/
def noSeeds : Failure := .configuration "no seed nodes configured"

/-- What comes of asking the members to start from. -/
def bootstrapResult (attempted : Nat) :
    Except Failure ProbeReport → Ledger → Except Failure Nat × Ledger
  | .error f, l => (.error f, l)
  | .ok report, l =>
    if report.recovered.isEmpty then
      (.error (.noReachableSeeds attempted), l.note <|
        membershipEvent .error "No seed node answered" [("attempted", .number attempted)])
    else
      (.ok report.recovered.length, l.note <| membershipEvent .info "Seed nodes probed"
        [("reachable", .number report.recovered.length), ("attempted", .number attempted)])

/-- Enters the members to start from, and asks them; yields how many answered. -/
def bootstrap (d : Discovery) (seeds : List Address) : Activity τ (Except Failure Nat) := do
  if seeds.isEmpty then return .error noSeeds
  let records := seeds.map Record.unresolved
  Activity.change fun l => ((), l.add records)
  let report ← d.probeNodes records
  Activity.change (bootstrapResult seeds.length report)

/-- Asks one member which members there are. -/
def probe (d : Discovery) (a : Address) : Activity τ (Except Failure TopologyView) :=
  Activity.probeOne d.timeout a

/-- Asks one member what it has heard. -/
def gossip (d : Discovery) (a : Address) : Activity τ (Except Failure GossipView) :=
  Activity.gossipOne d.timeout a

end Discovery

end Roster
