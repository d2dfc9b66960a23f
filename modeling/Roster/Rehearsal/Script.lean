import Roster.Reply
import Roster.View

/-!
# Scripted clusters

A script says how every node of a cluster answers, and how long it takes to. A node that is not
in the script refuses.

* `Script.probe` and `Script.gossip` are the replies of a node.
* `Script.replace` gives some nodes new lines.
-/

namespace Roster.Rehearsal

/-- How a node answers when it is asked which members there are. -/
inductive Health
  /-- It answers. -/
  | up
  /-- It refuses. -/
  | down
  /-- It says that it took too long. -/
  | stalled
  /-- It answers with nonsense. -/
  | garbled
  /-- It cannot be asked. -/
  | misconfigured
  /-- It never answers. -/
  | hanging
deriving DecidableEq

/-- How a node answers when it is asked what it has heard. -/
inductive Hearsay
  /-- It has nothing to tell. -/
  | silent
  /-- It never answers. -/
  | hanging
  /-- It tells this. -/
  | told (entries : List GossipEntry)
deriving DecidableEq

/-- The lines of one node. -/
structure Part where
  health : Health := .up
  identifier : String := ""
  topologyHash : String := ""
  members : List Listing := []
  hearsay : Hearsay := .silent
  /-- How long it takes to answer. -/
  delay : Duration := ⟨0⟩
deriving DecidableEq

/-- The lines of the nodes of a cluster. -/
structure Script where
  parts : List (Address × Part)
deriving DecidableEq

namespace Script

/-- The lines of the node at an address. -/
def part? (s : Script) (a : Address) : Option Part :=
  (s.parts.find? fun p => p.1 == a).map Prod.snd

/-- Gives the nodes at some addresses new lines, and keeps the others. -/
def replace (parts : List (Address × Part)) (s : Script) : Script :=
  ⟨parts ++ s.parts.filter fun p => !(parts.any fun q => q.1 == p.1)⟩

/-- What is wrong with a node that refuses. -/
def refused (a : Address) : Failure := .unreachable a.text "connection refused" false

/-- The reply of a node that is asked which members there are. -/
def probe (s : Script) (a : Address) : Reply TopologyView :=
  match s.part? a with
  | none => ⟨some ⟨0⟩, .error (refused a)⟩
  | some p =>
    match p.health with
    | .up => ⟨some p.delay, .ok ⟨p.identifier, p.topologyHash, p.members⟩⟩
    | .down => ⟨some p.delay, .error (refused a)⟩
    | .stalled => ⟨some p.delay, .error (.unreachable a.text "deadline elapsed" true)⟩
    | .garbled => ⟨some p.delay, .error (.protocol a.text "bad payload")⟩
    | .misconfigured => ⟨some p.delay, .error (.configuration "client misconfigured")⟩
    | .hanging => ⟨none, .error (refused a)⟩

/-- What is wrong with a node that has nothing to tell. -/
def noGossip (a : Address) : Failure := .protocol a.text "no gossip"

/-- The reply of a node that is asked what it has heard. -/
def gossip (s : Script) (a : Address) : Reply GossipView :=
  match s.part? a with
  | none => ⟨some ⟨0⟩, .error (noGossip a)⟩
  | some p =>
    match p.hearsay with
    | .silent => ⟨some p.delay, .error (noGossip a)⟩
    | .hanging => ⟨none, .error (noGossip a)⟩
    | .told entries => ⟨some p.delay, .ok ⟨p.identifier, entries⟩⟩

end Script

end Roster.Rehearsal
