import Roster.Activity
import Roster.Rehearsal.Script

/-!
# Activities on a stage

A stage is a ledger together with a script that gives the answers. The script is read when a
node is asked, not when its answer comes.

* `Stage.advance` lets an activity run on to its next wait that takes time.
* `Call.text` is what the stage writes down of each question.
-/

namespace Roster.Rehearsal

/-- A question that a node was asked. -/
inductive Call
  /-- Which members there are. -/
  | probe (a : Address)
  /-- What it has heard. -/
  | gossip (a : Address)
  /-- To serve the user of the pool. -/
  | serve (k : Key)
deriving DecidableEq

/-- The text of a question. -/
def Call.text : Call → String
  | probe a => s!"probe {a.text}"
  | gossip a => s!"gossip {a.text}"
  | serve k => k.text

/-- A ledger with a script that gives the answers. -/
structure Stage where
  ledger : Ledger
  script : Script
  /-- How nodes serve the user of the pool. -/
  service : Record → Except Failure Key
  /-- The questions so far, the first one first. -/
  calls : List Call

/-- What has become of an activity. -/
inductive Pending (α : Type)
  /-- It is over. -/
  | finished (result : α)
  /-- It goes on at a later time. -/
  | waiting (wake : Instant) (rest : Activity Key α)

namespace Stage

variable {α : Type}

/-- Writes questions down. -/
def record (cs : List Call) (s : Stage) : Stage := { s with calls := s.calls ++ cs }

/-- Changes the ledger. -/
def mapLedger (f : Ledger → Ledger) (s : Stage) : Stage := { s with ledger := f s.ledger }

/-- What comes of asking nodes together which members there are. -/
def probeRound (limit : Duration) (as : List Address) (s : Stage) : Round TopologyView :=
  .ofReplies limit (as.map fun a => (a, s.script.probe a))

/-- What comes of asking a node what it has heard. -/
def gossipRound (limit : Duration) (a : Address) (s : Stage) :
    Except Failure GossipView × Duration :=
  (s.script.gossip a).within limit a

/-- Lets an activity run on until it is over or waits for an answer that takes time. -/
def advance (s : Stage) : Activity Key α → Stage × Pending α
  | .done r => (s, .finished r)
  | .update f next => advance (s.mapLedger f) (next s.ledger)
  | .probe limit as next =>
    let round := s.probeRound limit as
    let s := s.record (as.map .probe)
    if round.lasts.nanos = 0 then advance s (next round.answers)
    else (s, .waiting (s.ledger.now + round.lasts.nanos) (next round.answers))
  | .gossip limit a next =>
    let (answer, lasts) := s.gossipRound limit a
    let s := s.record [.gossip a]
    if lasts.nanos = 0 then advance s (next answer)
    else (s, .waiting (s.ledger.now + lasts.nanos) (next answer))
  | .call node next => advance (s.record [.serve node.key]) (next (s.service node))

end Stage

end Roster.Rehearsal
