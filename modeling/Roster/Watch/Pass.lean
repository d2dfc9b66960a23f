import Roster.Discovery

/-!
# One pass of the watch

A pass asks the active members, makes those inactive that failed or are no longer listed, and
asks the members that were inactive before, so that they can come back. A member whose answer
only took too long stays active if another one has heard from it recently.

* `Watch.pass` is one pass.
* `Watch.isListed` says whether the members list one of them, and `Watch.vouchers` finds the
  members that others have heard from.
-/

namespace Roster

open Log (Event Detail)

/-- What a pass changed. -/
structure PassSummary where
  deactivated : Nat := 0
  reactivated : Nat := 0
  added : Nat := 0
  relocated : Nat := 0
  /-- How many members stayed active because another one had heard from them. -/
  keptByGossip : Nat := 0
deriving DecidableEq

/-- How members are watched. -/
structure Watch where
  discovery : Discovery
  /-- The time from one pass to the next. -/
  interval : Duration
  /-- How long ago others may have heard from a member that they vouch for; without it, they
  are not asked. -/
  gossipMaxAge : Option Duration

namespace Watch

variable {τ : Type}

/-- An event of the watch. -/
def watchEvent (level : Log.Level) (message : String) (details : List (String × Detail)) :
    Event :=
  ⟨level, "strata_cluster::discovery::health_watch", message, details⟩

/-- Whether a member counts as listed. It does not only if it has an identifier that nobody
listed, though somebody listed members. -/
def isListed (merges : Bool) (report : RefreshReport) (r : Record) : Bool :=
  !merges || !report.sawTopology ||
    match r.identifier with
    | some id => report.seen.contains id
    | none => true

/-- The identifiers of the members whose answers took too long. -/
def timedOut (report : RefreshReport) : List String :=
  (report.failed.filter fun x => x.2.isTimeout).filterMap fun x => x.1.identifier

/-- The identifiers that a report vouches for. -/
def fresh (maxAge : Duration) (v : GossipView) (ids : List String) : List String :=
  ids.filter fun id => (v.ageOf? id).any fun age => age.nanos ≤ maxAge.nanos

/-- What is noted when a report vouches for a member. -/
def vouched (v : GossipView) (id : String) : Event :=
  watchEvent .info "Probe timed out but peer gossip reports the node alive"
    [("node_id", .text id), ("reporter", .text v.reporter)]

/-- What is noted when a member does not tell what it has heard. -/
def gossipUnavailable (peer : Record) (f : Failure) : Event :=
  watchEvent .debug "Gossip unavailable from peer"
    [("node", .text peer.text), ("error", .text f.message)]

/-- Asks members one after the other what they have heard, until one answers, and yields the
identifiers that it vouches for. -/
def consult (d : Discovery) (maxAge : Duration) (ids : List String) :
    List Record → Activity τ (List String)
  | [] => pure []
  | peer :: peers => do
    match ← d.gossip peer.address with
    | .ok v =>
      let kept := fresh maxAge v ids
      Activity.change fun l => (kept, l.noteAll (kept.map (vouched v)))
    | .error f =>
      Activity.note (gossipUnavailable peer f)
      consult d maxAge ids peers

/-- The identifiers of members whose answers took too long and that another one vouches for. -/
def vouchers (w : Watch) (report : RefreshReport) : Activity τ (List String) :=
  match w.gossipMaxAge with
  | none => pure []
  | some maxAge =>
    let ids := timedOut report
    if ids.isEmpty then pure [] else consult w.discovery maxAge ids report.reached

/-- Whether one of some identifiers is that of a member. -/
def isAmong (ids : List String) (r : Record) : Bool := r.identifier.any ids.contains

/-- The members that failed and are not vouched for. -/
def down (report : RefreshReport) (kept : List String) : List Record :=
  (report.failed.map Prod.fst).filter fun r => !isAmong kept r

/-- The members that answered but are no longer listed. -/
def unlisted (merges : Bool) (report : RefreshReport) : List Record :=
  report.reached.filter fun r => !isListed merges report r

/-- What is noted for a member that is no longer listed. -/
def noLongerListed (r : Record) : Event :=
  watchEvent .warn "Node is no longer listed in the cluster topology" [("node", .text r.text)]

/-- What is noted for an inactive member that is not asked, since it is not listed. -/
def skipped (r : Record) : Event :=
  watchEvent .debug "Skipping re-probe of node absent from topology" [("node", .text r.text)]

/-- The members to ask again: those that were inactive before and still are, unless they are
not listed; and those that are left out. -/
def retries (merges : Bool) (report : RefreshReport) (before : List Key) (reg : Registry) :
    List Record × List Record :=
  (reg.inactive.filter fun r => before.contains r.key).partition (isListed merges report)

/-- Makes members inactive that failed or are no longer listed; yields how many, and the
members to ask again. -/
def retire (merges : Bool) (report : RefreshReport) (kept : List String) (before : List Key)
    (l : Ledger) : Except Failure (Nat × List Record) × Ledger :=
  let gone := unlisted merges report
  let l := l.noteAll (gone.map noLongerListed)
  match l.deactivate (down report kept ++ gone) with
  | (.error f, l) => (.error f, l)
  | (.ok n, l) =>
    let (again, out) := retries merges report before l.registry
    (.ok (n, again), l.noteAll (out.map skipped))

/-- One pass. Every member is asked at most once: one that this pass makes inactive is not
asked again before the next one. -/
def pass (w : Watch) : Activity τ (Except Failure PassSummary) := do
  let d := w.discovery
  let before ← Activity.look fun l => l.registry.inactive.map Record.key
  let report ← d.refresh
  let kept ← w.vouchers report
  match ← Activity.change (retire d.merges report kept before) with
  | .error f => return .error f
  | .ok (deactivated, again) =>
    match ← d.probeNodes again with
    | .error f => return .error f
    | .ok probed => return .ok {
        deactivated := deactivated
        reactivated := probed.recovered.length
        added := report.added
        relocated := report.relocated
        keptByGossip := (report.failed.filter fun x => isAmong kept x.1).length }

end Watch

end Roster
