/-!
# What can go wrong with a pool

* `Failure.message` explains a failure.
* `Failure.isNodeFailure` tells the failures that speak against one node, and
  `Failure.isTimeout` those in which a node gave no answer in time.
-/

namespace Roster

/-- Why an operation of a pool did not succeed. -/
inductive Failure
  /-- A node gave no answer. -/
  | unreachable (address reason : String) (timedOut : Bool)
  /-- A node gave an answer that cannot be used. -/
  | protocol (address reason : String)
  /-- None of the nodes to start from gave an answer. -/
  | noReachableSeeds (attempted : Nat)
  /-- There is no node to ask. -/
  | noActiveNodes
  /-- The pool was set up in a way that cannot work. -/
  | configuration (text : String)
  /-- The registry was asked for an entry that it has to have and has not. -/
  | invariantViolation (text : String)
deriving DecidableEq

namespace Failure

/-- The text that explains a failure. -/
def message : Failure → String
  | unreachable address reason _ => s!"Node {address} unreachable: {reason}"
  | protocol address reason => s!"Protocol error from {address}: {reason}"
  | noReachableSeeds n => s!"None of the {n} seed node(s) could be reached"
  | noActiveNodes => "No active nodes available"
  | configuration text => s!"Configuration error: {text}"
  | invariantViolation text => s!"Invariant violation: {text}"

/-- Whether the node that was asked should not be asked again for now. -/
def isNodeFailure : Failure → Bool
  | unreachable .. | protocol .. => true
  | _ => false

/-- Whether the node may just be slow. -/
def isTimeout : Failure → Bool
  | unreachable _ _ timedOut => timedOut
  | _ => false

end Failure

end Roster
