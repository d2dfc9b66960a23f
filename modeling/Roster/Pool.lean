import Roster.Settings.Basic
import Roster.Address.Seed
import Roster.Watch.Pass

/-!
# Pools of nodes

A pool keeps track of the nodes of one cluster and offers them to those who call them.

* `Pool.connect` sets a pool up from settings.
* `Pool.withActiveNode` calls active nodes one after the other until one serves, and makes those
  inactive that fail.
-/

namespace Roster

open Log (Event Detail)

/-- How a pool finds and watches its nodes; what it knows of them is in the ledger. -/
structure Pool where
  watch : Watch

namespace Pool

variable {τ : Type}

/-- How a pool finds its nodes. -/
def discovery (p : Pool) : Discovery := p.watch.discovery

/-- An event of a pool. -/
def poolEvent (level : Log.Level) (message : String) (details : List (String × Detail)) : Event :=
  ⟨level, "strata_cluster::pool", message, details⟩

/-- The pool of some settings. -/
def ofSettings (s : ClusterSettings) : Pool :=
  ⟨⟨s.requestTimeout, s.discover⟩, s.watchInterval, s.gossipMaxAge?⟩

/-- The nodes to start from, if the settings can work. -/
def seeds (s : ClusterSettings) : Except Failure (List Address) :=
  if s.watchInterval.nanos = 0 then
    .error (.configuration "watch_interval_ms must be greater than zero")
  else if s.requestTimeout.nanos = 0 then
    .error (.configuration "request_timeout_ms must be greater than zero")
  else s.seeds.mapM Address.ofNodeText

/-- What is noted when a pool is set up. -/
def ready (reg : Registry) : Event :=
  poolEvent .info "Node pool ready" [("active", .number reg.partition.1.length),
    ("inactive", .number reg.partition.2.length)]

/-- Sets a pool up: asks the nodes to start from and, if the settings say so, takes over the
ones that they list. The ledger is one without nodes. -/
def connect (s : ClusterSettings) : Activity τ (Except Failure Pool) := do
  let p := ofSettings s
  match seeds s with
  | .error f => return .error f
  | .ok seeds =>
    match ← p.discovery.bootstrap seeds with
    | .error f => return .error f
    | .ok _ =>
      if s.discover then let _ ← p.discovery.refresh
      Activity.change fun l => (.ok p, l.note (ready l.registry))

/-- The node to call, `drawn` being a number drawn by chance. -/
def activeNode (drawn : Nat) (l : Ledger) : Option Record × Ledger :=
  let (r, s) := l.selector.select? drawn l.registry.active
  (r, { l with selector := s })

/-- The nodes to call, in this order. -/
def candidates (drawn : Nat) (l : Ledger) : List Record × Ledger :=
  let (rs, s) := l.selector.order drawn l.registry.active
  (rs, { l with selector := s })

/-- Makes a node inactive that failed when it was called. -/
def reportFailure (node : Record) (f : Failure) (l : Ledger) : Except Failure Unit × Ledger :=
  let l := l.note <| poolEvent .warn "Request to node failed, deactivating"
    [("node", .text node.text), ("error", .text f.message)]
  match l.deactivate [node] with
  | (.ok _, l) => (.ok (), l)
  | (.error f, l) => (.error f, l)

/-- Calls nodes one after the other until one does not fail. -/
def callUntil : List Record → Option Failure → Activity τ (Except Failure τ)
  | [], last => pure (.error (last.getD .noActiveNodes))
  | node :: nodes, _ => do
    match ← Activity.callOne node with
    | .ok v => return .ok v
    | .error f =>
      if f.isNodeFailure then
        match ← Activity.change (reportFailure node f) with
        | .ok () => callUntil nodes (some f)
        | .error f => return .error f
      else return .error f

/-- Calls active nodes one after the other until one serves. A node that fails is made inactive;
a failure that does not speak against the node ends the calls. -/
def withActiveNode (drawn : Nat) : Activity τ (Except Failure τ) := do
  callUntil (← Activity.change (candidates drawn)) none

end Pool

end Roster
