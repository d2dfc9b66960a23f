import Roster.Record

/-!
# Which member is asked first

A selector picks a place in a list of members. With turns, each pick from a non-empty list
starts one place further on; a pick from an empty list takes no turn.

* `Selector.start?` is the place, `Selector.select?` the member there, and `Selector.order` the
  whole list from there on, wrapped around.
* For picks by chance, the place is a number that the caller draws.
-/

namespace Roster

/-- How a selector picks. -/
inductive Strategy
  /-- By chance. -/
  | random
  /-- In turns. -/
  | roundRobin
  /-- Always the first. -/
  | first
deriving DecidableEq

/-- The name of a strategy. -/
def Strategy.name : Strategy → String
  | random => "random"
  | roundRobin => "round_robin"
  | first => "first"

/-- The strategy with a name. -/
def Strategy.ofName? (name : String) : Option Strategy :=
  [random, roundRobin, first].find? fun s => s.name == name

theorem Strategy.ofName?_name (s : Strategy) : ofName? s.name = some s := by
  cases s <;> decide

/-- A strategy and the turns taken so far, which are counted modulo `2 ^ 64`. -/
structure Selector where
  strategy : Strategy
  turns : UInt64

namespace Selector

/-- A selector that has taken no turn. -/
def new (strategy : Strategy) : Selector := ⟨strategy, 0⟩

/-- The place where a list of `n` members starts, `drawn` being a number drawn by chance, and
the selector afterwards. -/
def start? (s : Selector) (drawn n : Nat) : Option Nat × Selector :=
  if n = 0 then (none, s)
  else match s.strategy with
    | .random => (some (drawn % n), s)
    | .roundRobin => (some (s.turns.toNat % n), { s with turns := s.turns + 1 })
    | .first => (some 0, s)

/-- The member to ask, if there is one. -/
def select? (s : Selector) (drawn : Nat) (nodes : List Record) : Option Record × Selector :=
  let (i, s) := s.start? drawn nodes.length
  (i.bind fun i => nodes[i]?, s)

/-- The members in the order in which to ask them. -/
def order (s : Selector) (drawn : Nat) (nodes : List Record) : List Record × Selector :=
  match s.start? drawn nodes.length with
  | (none, s) => (nodes, s)
  | (some i, s) => (nodes.rotateLeft i, s)

theorem start?_zero (s : Selector) (drawn : Nat) : s.start? drawn 0 = (none, s) := rfl

/-- A place is a place of the list. -/
theorem start?_lt {s : Selector} {drawn n i : Nat} (h : (s.start? drawn n).1 = some i) :
    i < n := by
  unfold start? at h
  split at h
  · simp at h
  · rename_i hn
    split at h <;> simp at h <;> subst h
    · exact Nat.mod_lt _ (Nat.pos_of_ne_zero hn)
    · exact Nat.mod_lt _ (Nat.pos_of_ne_zero hn)
    · exact Nat.pos_of_ne_zero hn

end Selector

end Roster
