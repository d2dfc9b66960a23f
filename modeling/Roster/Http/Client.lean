import Roster.Activity
import Roster.Http.Exchange
import Roster.Number.Shortest

/-!
# What nodes tell over HTTP

A node tells its identifier and the hash of the list of members that it uses under `state`, the
list itself under `topology/json` and the hash, and what it has heard under `gossip/json`.

* `probe` asks a node which members there are. A node that uses no list is not asked for one.
* `gossip` asks a node what it has heard.
* `memberAddress` is the address of a listed member.
* `client` answers the questions of a pool over a network.
-/

namespace Roster.Http

open Json (Datum Form)

/-! ### What a node tells -/

/-- What a node tells about itself. -/
structure NodeState where
  id : String
  /-- The hash of the list of members that it uses. -/
  current : String
deriving DecidableEq

/-- One line of a list of members. -/
structure MemberLine where
  id : String
  host : String
  port : Nat
  apiPort : Option Nat
deriving DecidableEq

/-- One line of what a node has heard. -/
structure GossipLine where
  id : String
  /-- How many seconds ago. -/
  age : Binary64
deriving DecidableEq

/-- The form of what a node tells about itself. -/
def stateForm : Form :=
  [⟨"id", .text, none, none⟩, ⟨"current", .text, some (.text ""), some (.text "")⟩]

/-- The form of a line of a list of members. -/
def memberForm : Form :=
  [⟨"id", .text, none, none⟩, ⟨"address", .text, none, none⟩, ⟨"port", .port, none, none⟩,
    ⟨"apiport", .optionalPort, some (.optionalPort none), some (.optionalPort none)⟩]

/-- The form of a line of what a node has heard. -/
def gossipForm : Form := [⟨"id", .text, none, none⟩, ⟨"age", .number, none, none⟩]

/-- What a node tells about itself, from its data. -/
def NodeState.ofData : List Datum → Except Json.Fault NodeState
  | [.text id, .text current] => .ok ⟨id, current⟩
  | _ => .error .unsuitable

/-- A line of a list of members, from its data. -/
def MemberLine.ofData : List Datum → Except Json.Fault MemberLine
  | [.text id, .text host, .port port, .optionalPort apiPort] => .ok ⟨id, host, port, apiPort⟩
  | _ => .error .unsuitable

/-- A line of what a node has heard, from its data. -/
def GossipLine.ofData : List Datum → Except Json.Fault GossipLine
  | [.text id, .number age] => .ok ⟨id, age⟩
  | _ => .error .unsuitable

/-- Reads what a node tells about itself. -/
def readState (cs : List Char) : Except Json.Fault NodeState :=
  Json.whole (stateForm.read cs) >>= NodeState.ofData

/-- Reads a list of members. -/
def readMembers (cs : List Char) : Except Json.Fault (List MemberLine) :=
  Json.whole (memberForm.readAll cs) >>= fun ds => ds.mapM MemberLine.ofData

/-- Reads what a node has heard. -/
def readGossip (cs : List Char) : Except Json.Fault (List GossipLine) :=
  Json.whole (gossipForm.readAll cs) >>= fun ds => ds.mapM GossipLine.ofData

/-! ### Members -/

/-- Whether a hash is that of a list: it is not empty, and not all of it is zeros. -/
def hasTopology (hash : String) : Bool := hash.toList.any (· != '0')

/-- A host as it stands in an address: groups separated by colons stand in brackets. -/
def bracketed (host : String) : String :=
  if host.toList.contains ':' && host.toList.head? != some '[' then s!"[{host}]" else host

/-- The address of a listed member, which is reached in the same way as the node that lists it. -/
def memberAddress (scheme host : String) (port : Nat) : Except Address.Fault Address :=
  Address.read s!"{scheme}://{bracketed host}:{port}"

/-- What is wrong with a member whose address is none. -/
def badMember (node : Address) (m : MemberLine) (f : Address.Fault) : Failure :=
  let reason := f.message
  .protocol node.text s!"member {m.id} has bad address '{m.host}': {reason}"

/-- A listed member. -/
def MemberLine.listing (node : Address) (m : MemberLine) : Except Failure Listing :=
  match memberAddress node.scheme m.host (m.apiPort.getD m.port) with
  | .ok a => .ok ⟨m.id, a⟩
  | .error f => .error (badMember node m f)

/-! ### Ages -/

/-- Why a number of seconds is no duration. -/
inductive AgeFault
  | negative
  | tooLarge
deriving DecidableEq

/-- The text that explains why a number of seconds is no duration. -/
def AgeFault.message : AgeFault → String
  | negative => "cannot convert float seconds to Duration: value is negative"
  | tooLarge => "cannot convert float seconds to Duration: value is either too big or NaN"

/-- The duration of a number of seconds, to the nearest nanosecond; seconds fit in 64 bits. -/
def ageOf (x : Binary64) : Except AgeFault Duration :=
  if x.isNegative then .error .negative
  else match x.timesHalfEven? 1000000000 with
    | some n => if n < Nat.pow 2 64 * 1000000000 then .ok ⟨n⟩ else .error .tooLarge
    | none => .error .tooLarge

/-- What is wrong with a member heard from at no time. -/
def badAge (node : Address) (g : GossipLine) (f : AgeFault) : Failure :=
  let age := g.age.text
  let reason := f.message
  .protocol node.text s!"peer {g.id} has bad gossip age {age}: {reason}"

/-- What a node has heard from one member. -/
def GossipLine.entry (node : Address) (g : GossipLine) : Except Failure GossipEntry :=
  match ageOf g.age with
  | .ok d => .ok ⟨g.id, d⟩
  | .error f => .error (badAge node g f)

/-! ### Questions -/

/-- What is wrong with a node without an identifier. -/
def emptyId (node : Address) : Failure := .protocol node.text "node state has an empty id"

/-- What is noted of a node that uses no list. -/
def noTopology (node : Address) (s : NodeState) : Log.Event :=
  ⟨.debug, "strata_cluster::discovery::http_client", "Node has no topology loaded",
    [("address", .text node.text), ("node_id", .text s.id)]⟩

/-- Asks a node for the list with a hash. -/
def topology (node : Address) (hash : String) : Exchange (Except Failure (List Listing)) := do
  match ← Exchange.getJson node ["topology", "json", hash] readMembers with
  | .error f => return .error f
  | .ok lines => return lines.mapM (MemberLine.listing node)

/-- Asks a node which members there are. -/
def probe (node : Address) : Exchange (Except Failure TopologyView) := do
  match ← Exchange.getJson node ["state"] readState with
  | .error f => return .error f
  | .ok s =>
    if s.id.isEmpty then return .error (emptyId node)
    else if hasTopology s.current then
      match ← topology node s.current with
      | .error f => return .error f
      | .ok members => return .ok ⟨s.id, s.current, members⟩
    else .note (noTopology node s) (.done (.ok ⟨s.id, s.current, []⟩))

/-- Asks a node what it has heard. -/
def gossip (node : Address) : Exchange (Except Failure GossipView) := do
  match ← Exchange.getJson node ["state"] readState with
  | .error f => return .error f
  | .ok s =>
    match ← Exchange.getJson node ["gossip", "json"] readGossip with
    | .error f => return .error f
    | .ok lines =>
      return (lines.mapM (GossipLine.entry node)).map fun entries => ⟨s.id, entries⟩

/-- Answers the questions of a pool over a network, on which every request takes its time into
account itself; `service` serves the user of the pool. -/
def client {m : Type → Type} [Monad m] {τ : Type} (fetch : Address → m Outcome)
    (write : Log.Event → m Unit) (service : Record → m (Except Failure τ)) :
    Activity.Client m τ where
  probe _ as := as.mapM fun a => (probe a).runWith fetch write
  gossip _ a := (gossip a).runWith fetch write
  call := service

end Roster.Http
