import Roster.Rehearsal.Stage
import Roster.Watch.Loop

/-!
# Rehearsals

A rehearsal is a stage on which loops of a watch run beside one activity in front of them. Time
does not pass by itself: when everybody waits, the clock is set to the moment at which the next
one goes on. What is in front goes on before the loops, and the loops go on in the order in
which they began. A loop that could make a pass and could end as well does what the next of some
numbers says, which are drawn beforehand.

* `Rehearsal.perform` performs an activity in front of the loops.
* `Rehearsal.sleep` lets time pass.
* `Rehearsal.startWatch`, `cancel` and `stop` begin a loop, tell all of them to stop, and wait
  for the passes that are running.
-/

namespace Roster.Rehearsal

open Watch (Loop Branch)

/-- A loop that has begun: what it does between two passes, and the pass that it waits in. -/
structure Running where
  loop : Loop
  pass : Option (Instant × Activity Key Unit)

namespace Running

/-- The moment at which a loop goes on. -/
def due (now : Instant) (r : Running) : Instant :=
  match r.pass with
  | some (wake, _) => wake
  | none => if r.loop.cancelled then now else r.loop.timer.deadline

/-- A loop after its pass has run on. -/
def after (p : Loop) : Pending Unit → Running
  | .finished () => ⟨p, none⟩
  | .waiting wake rest => ⟨p, some (wake, rest)⟩

/-- Lets a loop go on that is due; it may end. What it does after a pass is left to a number. -/
def proceed (w : Watch) (draw : Nat) (s : Stage) (r : Running) : Stage × Option Running :=
  match r.pass with
  | some (_, rest) =>
    let (s, pending) := s.advance rest
    (s, some (after r.loop pending))
  | none =>
    match r.loop.branch? draw s.ledger.now with
    | some .shutDown => (s.mapLedger (Ledger.note Watch.shuttingDown), none)
    | some .pass =>
      let (s, pending) := s.advance w.notedPass
      (s, some (after (r.loop.beginPass s.ledger.now) pending))
    | none => (s, some r)

end Running

end Rehearsal

/-- A stage on which loops of a watch run. -/
structure Rehearsal where
  stage : Rehearsal.Stage
  watch : Watch
  loops : List Rehearsal.Running
  /-- The numbers that are drawn, one for each turn of the loops. -/
  draws : Nat → Nat
  /-- How many turns the loops have taken. -/
  turns : Nat

namespace Rehearsal

variable {α : Type}

/-- A rehearsal without loops. Whenever a loop can make a pass, it makes one. -/
def start (strategy : Strategy) (script : Script) (watch : Watch) : Rehearsal :=
  ⟨⟨.start 0 strategy, script, fun r => .ok r.key, []⟩, watch, [], fun _ => 0, 0⟩

/-- Sets the numbers that are drawn. -/
def withDraws (draws : Nat → Nat) (w : Rehearsal) : Rehearsal := { w with draws := draws }

/-- The ledger of a rehearsal. -/
def ledger (w : Rehearsal) : Ledger := w.stage.ledger

/-- The time. -/
def now (w : Rehearsal) : Instant := w.ledger.now

/-- Changes the ledger. -/
def mapLedger (f : Ledger → Ledger) (w : Rehearsal) : Rehearsal :=
  { w with stage := w.stage.mapLedger f }

/-- Sets the clock forward. -/
def clockTo (t : Instant) (w : Rehearsal) : Rehearsal :=
  w.mapLedger fun l => { l with now := max l.now t }

/-- The moment at which the next loop goes on. -/
def nextDue? (w : Rehearsal) : Option Instant := (w.loops.map fun r => r.due w.now).min?

/-- Lets the first one of some loops go on that is due. -/
def proceedFirst (w : Watch) (draw : Nat) (s : Stage) : List Running → Stage × List Running
  | [] => (s, [])
  | r :: rs =>
    if r.due s.ledger.now ≤ s.ledger.now then
      let (s, r) := r.proceed w draw s
      (s, r.toList ++ rs)
    else
      let (s, rs) := proceedFirst w draw s rs
      (s, r :: rs)

/-- Lets the next loop go on. -/
def turn (w : Rehearsal) : Rehearsal :=
  let (s, rs) := proceedFirst w.watch (w.draws w.turns) w.stage w.loops
  { w with stage := s, loops := rs, turns := w.turns + 1 }

/-- Lets the loops go on until a moment, in at most so many turns. -/
def runUntil (target : Instant) : Nat → Rehearsal → Rehearsal
  | 0, w => w.clockTo target
  | turns + 1, w =>
    match w.nextDue? with
    | none => w.clockTo target
    | some t => if t < target then runUntil target turns (w.clockTo t).turn else w.clockTo target

/-- As many turns as the loops can take in some time. Each turn of a loop ends a wait, and waits
take time, or handles a tick, and the ticks that are late by less than the tolerance can follow
each other at once. -/
def turnsWithin (d : Duration) (w : Rehearsal) : Nat :=
  w.loops.length * (2 * d.nanos + Watch.Timer.tolerance.nanos + 4)

/-- Lets time pass. -/
def sleep (d : Duration) (w : Rehearsal) : Rehearsal :=
  w.runUntil (w.now + d.nanos) (w.turnsWithin d)

/-- Performs an activity in front of the loops. -/
def perform (w : Rehearsal) : Activity Key α → Rehearsal × α
  | .done r => (w, r)
  | .update f next => perform (w.mapLedger f) (next w.ledger)
  | .probe limit as next =>
    let round := w.stage.probeRound limit as
    perform (sleep round.lasts { w with stage := w.stage.record (as.map .probe) })
      (next round.answers)
  | .gossip limit a next =>
    let (answer, lasts) := w.stage.gossipRound limit a
    perform (sleep lasts { w with stage := w.stage.record [.gossip a] }) (next answer)
  | .call node next =>
    perform { w with stage := w.stage.record [.serve node.key] } (next (w.stage.service node))

/-- Begins a loop. One without any time between its ticks never begins. -/
def startWatch (w : Rehearsal) : Rehearsal :=
  if w.watch.interval.nanos = 0 then w
  else
    let w := w.mapLedger (Ledger.note (Watch.started w.watch.interval))
    { w with loops := w.loops ++ [⟨.start w.now w.watch.interval, none⟩] }

/-- Tells all loops to stop. -/
def cancel (w : Rehearsal) : Rehearsal :=
  { w with loops := w.loops.map fun r => { r with loop := r.loop.cancel } }

/-- The first loop that is in a pass, and the others. -/
def firstPassing? : List Running → Option ((Instant × Activity Key Unit) × List Running)
  | [] => none
  | r :: rs =>
    match r.pass with
    | some p => some (p, rs)
    | none => (firstPassing? rs).map fun (p, rs) => (p, r :: rs)

/-- Waits for so many passes that are running. -/
def join : Nat → Rehearsal → Rehearsal
  | 0, w => w
  | n + 1, w =>
    match firstPassing? w.loops with
    | none => w
    | some ((wake, rest), others) =>
      let w := sleep ⟨wake - w.now⟩ { w with loops := others }
      join n (w.perform rest).1

/-- Tells all loops to stop, and waits for the passes that are running. -/
def stop (w : Rehearsal) : Rehearsal :=
  let w := w.cancel
  { w.join w.loops.length with loops := [] }

/-- Gives some nodes new lines. -/
def retell (parts : List (Address × Part)) (w : Rehearsal) : Rehearsal :=
  { w with stage := { w.stage with script := w.stage.script.replace parts } }

/-- Says how nodes serve the user of the pool. -/
def withService (service : Record → Except Failure Key) (w : Rehearsal) : Rehearsal :=
  { w with stage := { w.stage with service := service } }

/-- The questions since they were last taken. -/
def takeCalls (w : Rehearsal) : List Call × Rehearsal :=
  (w.stage.calls, { w with stage := { w.stage with calls := [] } })

end Rehearsal

end Roster
