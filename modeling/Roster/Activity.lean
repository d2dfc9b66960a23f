import Roster.Ledger
import Roster.Reply
import Roster.View

/-!
# Activities

An activity is what a pool does in several stretches: it changes the ledger, asks nodes, and
goes on with the answers. While it waits for answers, other activities may change the ledger;
between two waits, nobody else does.

* `Activity.settle` lets an activity run on to its next wait.
* `Activity.runWith` runs an activity with a client that gives the answers, and
  `Activity.runWriting` writes the events of the ledger out on the way.
-/

namespace Roster

/-- Something that is done in stretches, `τ` being what calls to nodes yield and `α` what the
activity yields in the end. -/
inductive Activity (τ α : Type) where
  /-- There is nothing left to do. -/
  | done (result : α)
  /-- The ledger becomes `f` of it; what comes next may depend on what it was before. -/
  | update (f : Ledger → Ledger) (next : Ledger → Activity τ α)
  /-- Nodes are asked together which members there are, each one for at most a time. -/
  | probe (limit : Duration) (addresses : List Address)
      (next : List (Except Failure TopologyView) → Activity τ α)
  /-- A node is asked, for at most a time, what it has heard. -/
  | gossip (limit : Duration) (address : Address)
      (next : Except Failure GossipView → Activity τ α)
  /-- A node is called on behalf of the user of the pool. -/
  | call (node : Record) (next : Except Failure τ → Activity τ α)

namespace Activity

variable {τ α β : Type}

/-- Goes on with what an activity yields. -/
def bind (a : Activity τ α) (k : α → Activity τ β) : Activity τ β :=
  match a with
  | done r => k r
  | update f next => update f fun l => bind (next l) k
  | probe limit as next => probe limit as fun rs => bind (next rs) k
  | gossip limit a next => gossip limit a fun r => bind (next r) k
  | call node next => call node fun r => bind (next r) k

instance : Monad (Activity τ) where
  pure := done
  bind := bind

/-- Looks at the ledger. -/
def look (f : Ledger → α) : Activity τ α := update id fun l => done (f l)

/-- Changes the ledger in one stretch. -/
def change (f : Ledger → α × Ledger) : Activity τ α :=
  update (fun l => (f l).2) fun l => done (f l).1

/-- Notes an event. -/
def note (e : Log.Event) : Activity τ Unit := update (Ledger.note e) fun _ => done ()

/-- Asks nodes together which members there are. -/
def probeAll (limit : Duration) (addresses : List Address) :
    Activity τ (List (Except Failure TopologyView)) :=
  probe limit addresses done

/-- Asks a node which members there are. -/
def probeOne (limit : Duration) (a : Address) : Activity τ (Except Failure TopologyView) :=
  probe limit [a] fun rs => done (rs.headD (.error (.noAnswer a limit)))

/-- Asks a node what it has heard. -/
def gossipOne (limit : Duration) (a : Address) : Activity τ (Except Failure GossipView) :=
  gossip limit a done

/-- Calls a node on behalf of the user. -/
def callOne (node : Record) : Activity τ (Except Failure τ) := call node done

/-- Lets an activity run on until it waits for an answer or has nothing left to do. -/
def settle (l : Ledger) : Activity τ α → Ledger × Activity τ α
  | update f next => settle (f l) (next l)
  | a => (l, a)

/-- Where the answers come from. They may depend on more than the questions. -/
structure Client (m : Type → Type) (τ : Type) where
  probe : Duration → List Address → m (List (Except Failure TopologyView))
  gossip : Duration → Address → m (Except Failure GossipView)
  call : Record → m (Except Failure τ)

/-- Runs an activity to its end, with nobody else changing the ledger. -/
def runWith {m : Type → Type} [Monad m] (c : Client m τ) :
    Activity τ α → StateT Ledger m α
  | done r => pure r
  | update f next => fun l => runWith c (next l) (f l)
  | probe limit as next => fun l => do runWith c (next (← c.probe limit as)) l
  | gossip limit a next => fun l => do runWith c (next (← c.gossip limit a)) l
  | call node next => fun l => do runWith c (next (← c.call node)) l

/-- Writes the events of a ledger out, the first one first. -/
def writeOut {m : Type → Type} [Monad m] (write : Log.Event → m Unit) (l : Ledger) : m Ledger := do
  l.events.forM write
  return { l with events := [] }

/-- Runs an activity to its end, with nobody else changing the ledger. Events are written out as
soon as they are noted. -/
def runWriting {m : Type → Type} [Monad m] (c : Client m τ) (write : Log.Event → m Unit) :
    Activity τ α → StateT Ledger m α
  | done r => pure r
  | update f next => fun l => do runWriting c write (next l) (← writeOut write (f l))
  | probe limit as next => fun l => do runWriting c write (next (← c.probe limit as)) l
  | gossip limit a next => fun l => do runWriting c write (next (← c.gossip limit a)) l
  | call node next => fun l => do runWriting c write (next (← c.call node)) l

/-! ### Activities one after the other -/

@[simp]
theorem done_bind (r : α) (k : α → Activity τ β) : (done r).bind k = k r := rfl

theorem bind_done (a : Activity τ α) : a.bind done = a := by
  induction a with
  | done r => rfl
  | update f next ih => simp [bind, ih]
  | probe limit as next ih => simp [bind, ih]
  | gossip limit a next ih => simp [bind, ih]
  | call node next ih => simp [bind, ih]

theorem bind_assoc {γ : Type} (a : Activity τ α) (k : α → Activity τ β) (h : β → Activity τ γ) :
    (a.bind k).bind h = a.bind fun r => (k r).bind h := by
  induction a with
  | done r => rfl
  | update f next ih => simp [bind, ih]
  | probe limit as next ih => simp [bind, ih]
  | gossip limit a next ih => simp [bind, ih]
  | call node next ih => simp [bind, ih]

end Activity

end Roster
