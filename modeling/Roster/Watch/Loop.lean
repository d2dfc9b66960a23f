import Roster.Watch.Pass

/-!
# The loop of the watch

A loop makes a pass at every tick of a timer until it is told to stop. It is asked what to do
only while no pass is running, so a pass that is running is finished first.

* `Timer.tick` is the timer after a tick. A tick that is handled late moves the later ones, so
  that passes never follow each other in a burst.
* `Loop.branches` are the ways in which a loop can go on at a time. If there is more than one,
  any of them may be taken: `Loop.branch?` leaves it to a number that is drawn.
-/

namespace Roster.Watch

open Log (Event Detail)

/-- The ticks that are still to come. -/
structure Timer where
  deadline : Instant
  period : Duration

namespace Timer

/-- The timer whose first tick is one period from now. -/
def start (now : Instant) (period : Duration) : Timer := ⟨now + period.nanos, period⟩

/-- How late a tick may be handled and still count as handled in time. -/
def tolerance : Duration := .ofMillis 5

/-- Whether a tick is due. -/
def isDue (now : Instant) (t : Timer) : Bool := t.deadline ≤ now

/-- The timer when a tick is handled: the next tick is one period after this one was due, or one
period from now if it is handled too late. -/
def tick (now : Instant) (t : Timer) : Timer :=
  if t.deadline + tolerance.nanos < now then { t with deadline := now + t.period.nanos }
  else { t with deadline := t.deadline + t.period.nanos }

end Timer

/-- A way in which a loop can go on. -/
inductive Branch
  /-- It ends. -/
  | shutDown
  /-- It makes a pass. -/
  | pass
deriving DecidableEq

/-- A loop while no pass is running. -/
structure Loop where
  timer : Timer
  cancelled : Bool

namespace Loop

/-- A loop that begins now. -/
def start (now : Instant) (period : Duration) : Loop := ⟨.start now period, false⟩

/-- The ways in which a loop can go on. -/
def branches (now : Instant) (p : Loop) : List Branch :=
  (if p.timer.isDue now then [.pass] else []) ++ if p.cancelled then [.shutDown] else []

/-- The way that a loop takes among those in which it can go on, if there is one: a number that
is drawn says which of them it is. -/
def branch? (draw : Nat) (now : Instant) (p : Loop) : Option Branch :=
  let ways := p.branches now
  ways[draw % ways.length]?

/-- The loop when it begins a pass. -/
def beginPass (now : Instant) (p : Loop) : Loop := { p with timer := p.timer.tick now }

/-- The loop when it is told to stop. -/
def cancel (p : Loop) : Loop := { p with cancelled := true }

theorem branches_eq_nil_iff {now : Instant} {p : Loop} :
    p.branches now = [] ↔ p.cancelled = false ∧ now < p.timer.deadline := by
  cases h : p.cancelled <;> simp [branches, h, Timer.isDue]

theorem branch?_eq_none_iff {draw : Nat} {now : Instant} {p : Loop} :
    p.branch? draw now = none ↔ p.branches now = [] := by
  rw [branch?, List.getElem?_eq_none_iff]
  cases p.branches now with
  | nil => simp
  | cons b bs => exact iff_of_false (Nat.not_le.mpr (Nat.mod_lt _ (Nat.succ_pos _))) (by simp)

/-- The ways that can be drawn are those in which a loop can go on. -/
theorem exists_branch?_eq_iff {b : Branch} {now : Instant} {p : Loop} :
    (∃ draw, p.branch? draw now = some b) ↔ b ∈ p.branches now := by
  constructor
  · rintro ⟨draw, h⟩
    exact List.mem_of_getElem? h
  · intro h
    obtain ⟨i, hi⟩ := List.getElem?_of_mem h
    have hlt : i < (p.branches now).length := (List.getElem?_eq_some_iff.mp hi).1
    exact ⟨i, by rw [branch?, Nat.mod_eq_of_lt hlt, hi]⟩

end Loop

/-- What is noted when a loop begins. -/
def started (interval : Duration) : Event :=
  watchEvent .info "Health watch started" [("interval", .text interval.text)]

/-- What is noted when a loop ends. -/
def shuttingDown : Event := watchEvent .info "Health watch shutting down" []

/-- What is noted when a pass is over. -/
def passEvent : Except Failure PassSummary → Event
  | .ok s =>
    if s = {} then watchEvent .trace "Health watch pass found no changes" []
    else watchEvent .info "Cluster membership changed" [("deactivated", .number s.deactivated),
      ("reactivated", .number s.reactivated), ("added", .number s.added),
      ("relocated", .number s.relocated), ("kept_by_gossip", .number s.keptByGossip)]
  | .error f => watchEvent .error "Health watch pass aborted" [("error", .text f.message)]

/-- A pass, with what is noted when it is over. -/
def notedPass {τ : Type} (w : Watch) : Activity τ Unit := do
  let summary ← w.pass
  Activity.note (passEvent summary)

end Roster.Watch
