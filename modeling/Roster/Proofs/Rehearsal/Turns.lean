import Mathlib
import Roster.Proofs.Rehearsal.Loops

/-!
# Time in a rehearsal

While time passes in a rehearsal, its loops take turns, and the number of turns is bounded
beforehand. The bound is never reached: each turn handles a tick, ends a wait, or ends a loop, and
there are only so many ticks and waits in some time.

* `Running.load`: how many turns a loop may take until a time.
* `load_proceed`: each turn is one less.
* `Attended`: all loops of a rehearsal are loops at work that can be reached.
* `attended_sleep`: so they are when time has passed, and none of them is left behind.
* `Acts`, `Reached.attended`: so they are at any time.
-/

namespace Roster

namespace Rehearsal

open Activity

variable {w : Watch} {s : Stage} {r : Running} {rs : List Running} {target now now' : Nat}

/-! ### How many turns a loop may take -/

/-- A bound for the ticks until a time, the first one of which is due at a moment. A tick may be
late for as long as is tolerated. -/
def ticksUntil (target now deadline : Nat) : Nat :=
  target + 1 - max deadline (now - Watch.Timer.tolerance.nanos)

/-- A bound for the waits of a loop that end until a time. -/
def waitsUntil (target now : Nat) (pass : Option (Instant × Activity Key Unit)) : Nat :=
  pass.elim (target + 1 - now) fun p => 1 + (target + 1 - max now p.1)

/-- A bound for the turns of a loop until a time; the last one may be that it ends. -/
def Running.load (target now : Nat) (r : Running) : Nat :=
  1 + ticksUntil target now r.loop.timer.deadline + waitsUntil target now r.pass

lemma waitsUntil_le (pass : Option (Instant × Activity Key Unit)) :
    waitsUntil target now pass ≤ target - now + 2 := by
  rw [waitsUntil]
  cases pass with
  | none =>
      rw [Option.elim_none]
      omega
  | some p =>
      rw [Option.elim_some]
      omega

lemma waitsUntil_anti (hle : now ≤ now') (pass : Option (Instant × Activity Key Unit)) :
    waitsUntil target now' pass ≤ waitsUntil target now pass := by
  rw [waitsUntil, waitsUntil]
  cases pass with
  | none => exact Nat.sub_le_sub_left hle _
  | some p => exact Nat.add_le_add_left (Nat.sub_le_sub_left (max_le_max_right _ hle) _) 1

lemma load_le : r.load target now ≤ 2 * (target - now) + Watch.Timer.tolerance.nanos + 4 := by
  have hticks : ticksUntil target now r.loop.timer.deadline ≤
      target - now + Watch.Timer.tolerance.nanos + 1 := by
    rw [ticksUntil]
    omega
  have hwaits : waitsUntil target now r.pass ≤ target - now + 2 := waitsUntil_le r.pass
  rw [Running.load]
  omega

/-- In less time there are no more turns. -/
lemma load_anti (hle : now ≤ now') : r.load target now' ≤ r.load target now := by
  have hlate : now - Watch.Timer.tolerance.nanos ≤ now' - Watch.Timer.tolerance.nanos :=
    Nat.sub_le_sub_right hle _
  have hticks : ticksUntil target now' r.loop.timer.deadline ≤
      ticksUntil target now r.loop.timer.deadline :=
    Nat.sub_le_sub_left (max_le_max_left _ hlate) _
  exact Nat.add_le_add (Nat.add_le_add_left hticks 1) (waitsUntil_anti hle _)

/-- The tick after one that is handled is due later, also if this one was handled too late. -/
lemma lt_deadline_tick {t : Watch.Timer} (hpos : 0 < t.period.nanos) (hdue : t.deadline ≤ now) :
    max t.deadline (now - Watch.Timer.tolerance.nanos) < (t.tick now).deadline := by
  rw [Watch.Timer.tick]
  split_ifs with hlate
  · exact max_lt (lt_of_le_of_lt hdue (Nat.lt_add_of_pos_right hpos))
      (lt_of_le_of_lt (Nat.sub_le _ _) (Nat.lt_add_of_pos_right hpos))
  · refine max_lt (Nat.lt_add_of_pos_right hpos) (lt_of_le_of_lt ?_ (Nat.lt_add_of_pos_right hpos))
    exact Nat.sub_le_iff_le_add.mpr (Nat.le_of_not_lt hlate)

/-- A tick that is handled is one less. -/
lemma ticksUntil_tick {t : Watch.Timer} (hpos : 0 < t.period.nanos) (hdue : t.deadline ≤ now)
    (hle : now ≤ target) :
    ticksUntil target now (t.tick now).deadline + 1 ≤ ticksUntil target now t.deadline := by
  have hlater := lt_deadline_tick hpos hdue
  have hearlier : max t.deadline (now - Watch.Timer.tolerance.nanos) ≤ now :=
    max_le hdue (Nat.sub_le _ _)
  rw [ticksUntil, ticksUntil, max_eq_left ((le_max_right _ _).trans hlater.le)]
  exact Nat.sub_lt_sub_left (Nat.lt_succ_of_le (hearlier.trans hle)) hlater

/-- An answer that does not come at once comes later. -/
lemma lt_wake {α : Type} {a rest : Activity Key α} {wake : Instant}
    (h : (s.advance a).2 = .waiting wake rest) : (s.advance a).1.ledger.now < wake := by
  induction a generalizing s with
  | done r => cases h
  | update f next ih => exact ih _ h
  | probe limit as next ih =>
      rw [Stage.advance] at h ⊢
      split_ifs at h ⊢ with hzero
      · exact ih _ h
      · cases h
        exact Nat.lt_add_of_pos_right (Nat.pos_of_ne_zero hzero)
  | gossip limit a next ih =>
      rw [Stage.advance] at h ⊢
      dsimp only at h ⊢
      split_ifs at h ⊢ with hzero
      · exact ih _ h
      · cases h
        exact Nat.lt_add_of_pos_right (Nat.pos_of_ne_zero hzero)
  | call node next ih => exact ih _ h

/-- A stretch of a pass leaves no more waits than there are moments. -/
lemma load_advance {a : Activity Key Unit} (p : Watch.Loop)
    (hnow : (s.advance a).1.ledger.now = now) (hle : now ≤ target) :
    (Running.after p (s.advance a).2).load target now ≤
      1 + ticksUntil target now p.timer.deadline + (target + 1 - now) := by
  cases hpending : (s.advance a).2 with
  | finished result => exact le_rfl
  | waiting wake rest =>
      have hwake : now < wake := hnow ▸ lt_wake hpending
      refine Nat.add_le_add_left ?_ _
      show 1 + (target + 1 - max now wake) ≤ target + 1 - now
      omega

/-- **Each turn is one less.** A loop that is due and goes on may take fewer turns then, and one
that ends took a turn. -/
theorem load_proceed (draw : Nat) (hpos : 0 < r.loop.timer.period.nanos)
    (hdue : r.due s.ledger.now ≤ s.ledger.now) (hle : s.ledger.now ≤ target)
    (hnow : (r.proceed w draw s).1.ledger.now = s.ledger.now) :
    (r.proceed w draw s).2.elim 0 (Running.load target s.ledger.now) + 1 ≤
      r.load target s.ledger.now := by
  obtain ⟨p, pass⟩ := r
  cases pass with
  | some x =>
      have hwake : x.1 ≤ s.ledger.now := hdue
      have hload := load_advance p hnow hle
      have hbefore : waitsUntil target s.ledger.now (some x) = 1 + (target + 1 - s.ledger.now) := by
        rw [waitsUntil, Option.elim_some, max_eq_left hwake]
      show (Running.after p (s.advance x.2).2).load target s.ledger.now + 1 ≤
        1 + ticksUntil target s.ledger.now p.timer.deadline +
          waitsUntil target s.ledger.now (some x)
      rw [hbefore]
      omega
  | none =>
      rw [Running.proceed] at hnow ⊢
      dsimp only at hnow ⊢
      cases hdraw : p.branch? draw s.ledger.now with
      | none =>
          obtain ⟨hcancelled, hearly⟩ :=
            Watch.Loop.branches_eq_nil_iff.mp (Watch.Loop.branch?_eq_none_iff.mp hdraw)
          rw [Running.due] at hdue
          simp only [hcancelled] at hdue
          exact absurd hearly (Nat.not_lt.mpr hdue)
      | some b =>
          have hbranch := Watch.Loop.exists_branch?_eq_iff.mp ⟨draw, hdraw⟩
          rw [hdraw] at hnow
          cases b with
          | shutDown => exact Nat.le_add_right_of_le (Nat.le_add_right 1 _)
          | pass =>
              dsimp only at hnow ⊢
              have hticks : ticksUntil target s.ledger.now
                  (p.beginPass s.ledger.now).timer.deadline + 1 ≤
                    ticksUntil target s.ledger.now p.timer.deadline :=
                ticksUntil_tick hpos (Watch.Loop.pass_mem_branches_iff.mp hbranch) hle
              have hload := load_advance (p.beginPass s.ledger.now) hnow hle
              rw [hnow]
              show (Running.after _ _).load target s.ledger.now + 1 ≤
                1 + ticksUntil target s.ledger.now p.timer.deadline + (target + 1 - s.ledger.now)
              omega

/-! ### How many turns all loops may take -/

/-- A bound for the turns of some loops until a time. -/
def loads (target now : Nat) (rs : List Running) : Nat := (rs.map (Running.load target now)).sum

lemma loads_le (rs : List Running) (target now : Nat) :
    loads target now rs ≤
      rs.length * (2 * (target - now) + Watch.Timer.tolerance.nanos + 4) := by
  have hsum := List.sum_le_card_nsmul (rs.map (Running.load target now)) _
    (List.forall_mem_map.mpr fun r _ => load_le)
  rwa [List.length_map, smul_eq_mul] at hsum

lemma loads_anti (rs : List Running) (hle : now ≤ now') :
    loads target now' rs ≤ loads target now rs :=
  List.sum_le_sum fun _ _ => load_anti hle

lemma loads_cons (target now : Nat) (r : Running) (rs : List Running) :
    loads target now (r :: rs) = r.load target now + loads target now rs := by
  rw [loads, List.map_cons, List.sum_cons, loads]

/-- If one of the loops is due, a turn is taken. -/
lemma loads_proceedFirst (draw : Nat) (h : AtWork w s.ledger.now rs) (hle : s.ledger.now ≤ target)
    (hdue : ∃ r ∈ rs, r.due s.ledger.now ≤ s.ledger.now) :
    loads target s.ledger.now (proceedFirst w draw s rs).2 + 1 ≤
      loads target s.ledger.now rs := by
  induction rs with
  | nil => simp at hdue
  | cons r rs ih =>
      obtain ⟨⟨v, hreach, hshows⟩, hrs⟩ := List.forall_mem_cons.mp h
      rw [proceedFirst, loads_cons]
      split_ifs with hr
      · have hpos : 0 < r.loop.timer.period.nanos := by
          rw [← hshows.loop, hreach.sound.period]
          exact hreach.1
        have hturn := load_proceed draw hpos hr hle (proceeds_proceed w draw hshows).1
        dsimp only
        cases hres : (r.proceed w draw s).2 with
        | none =>
            rw [hres] at hturn
            simp only [Option.elim_none] at hturn
            simp only [Option.toList_none, List.nil_append]
            omega
        | some r' =>
            rw [hres] at hturn
            simp only [Option.elim_some] at hturn
            simp only [Option.toList_some, List.singleton_append, loads_cons]
            omega
      · have hrest := ih hrs (by simpa [hr] using hdue)
        dsimp only
        rw [loads_cons]
        omega

/-! ### Time -/

/-- All loops of a rehearsal are loops at work that can be reached. -/
def Attended (x : Rehearsal) : Prop := AtWork x.watch x.now x.loops

/-- A loop that is not due before a time is not due at it, or just so. -/
lemma le_due_of_le (h : target ≤ r.due now) : target ≤ r.due target := by
  obtain ⟨p, pass⟩ := r
  cases pass with
  | some x => exact h
  | none =>
      rw [Running.due] at h ⊢
      dsimp only at h ⊢
      split_ifs at h ⊢
      · exact le_rfl
      · exact h

/-- A loop that is due until a time is due at it. -/
lemma due_le_of_le (h : r.due now ≤ now') : r.due now' ≤ now' := by
  obtain ⟨p, pass⟩ := r
  cases pass with
  | some x => exact h
  | none =>
      rw [Running.due] at h ⊢
      dsimp only at h ⊢
      split_ifs at h ⊢
      · exact le_rfl
      · exact h

variable {x : Rehearsal}

lemma Attended.clockTo (h : Attended x) (hdue : ∀ r ∈ x.loops, target ≤ r.due x.now) :
    Attended (x.clockTo target) :=
  atWork_elapse h (le_max_left _ _) fun r hr => max_le_max_left _ (hdue r hr)

lemma Attended.turn (h : Attended x) : Attended x.turn ∧ x.turn.now = x.now := by
  obtain ⟨hnow, hloops⟩ := atWork_proceedFirst (x.draws x.turns) h
  have hnow : x.turn.now = x.now := hnow
  refine ⟨?_, hnow⟩
  show AtWork x.watch x.turn.now x.turn.loops
  rw [hnow]
  exact hloops

/-- If no loop is due before a time, the clock is set to it. -/
lemma Attended.arrive (h : Attended x) (hle : x.now ≤ target)
    (hdue : ∀ r ∈ x.loops, target ≤ r.due x.now) :
    Attended (x.clockTo target) ∧ (x.clockTo target).now = target ∧
      ∀ r ∈ (x.clockTo target).loops, target ≤ r.due target :=
  ⟨h.clockTo hdue, max_eq_right hle, fun r hr => le_due_of_le (hdue r hr)⟩

/-- As long as the turns suffice, time passes, and no loop is left behind. -/
lemma attended_runUntil {turns : Nat} (h : Attended x) (hle : x.now ≤ target)
    (hturns : loads target x.now x.loops ≤ turns) :
    Attended (x.runUntil target turns) ∧ (x.runUntil target turns).now = target ∧
      ∀ r ∈ (x.runUntil target turns).loops, target ≤ r.due target := by
  induction turns generalizing x with
  | zero =>
      -- Without a turn left there is no loop.
      refine h.arrive hle fun r hr => ?_
      have hsum := List.single_le_sum (fun _ _ => Nat.zero_le _) _
        (List.mem_map_of_mem (f := Running.load target x.now) hr)
      have hpos : 1 ≤ r.load target x.now := Nat.le_add_right_of_le (Nat.le_add_right 1 _)
      exact absurd (hpos.trans (hsum.trans hturns)) (by decide)
  | succ turns ih =>
      rw [runUntil]
      split
      · next hnone =>
        rw [nextDue?, List.min?_eq_none_iff, List.map_eq_nil_iff] at hnone
        exact h.arrive hle (by simp [hnone])
      · next t ht =>
        obtain ⟨hmem, hmin⟩ := List.min?_eq_some_iff.mp ht
        have hdue : ∀ r ∈ x.loops, t ≤ r.due x.now := fun r hr => hmin _ (List.mem_map_of_mem hr)
        split_ifs with hlt
        · have hclock := h.clockTo hdue
          have hlate : (x.clockTo t).now ≤ target := max_le hle hlt.le
          obtain ⟨r, hr, hrdue⟩ := List.mem_map.mp hmem
          have hrdue' : r.due (x.clockTo t).now ≤ (x.clockTo t).now :=
            due_le_of_le (hrdue.le.trans (le_max_right _ _))
          obtain ⟨hturn, hnow⟩ := hclock.turn
          have hfewer : loads target (x.clockTo t).now (x.clockTo t).turn.loops + 1 ≤
              loads target (x.clockTo t).now x.loops :=
            loads_proceedFirst (x.draws x.turns) hclock hlate ⟨r, hr, hrdue'⟩
          have hanti : loads target (x.clockTo t).now x.loops ≤ loads target x.now x.loops :=
            loads_anti x.loops (le_max_left _ _)
          refine ih hturn (hnow.le.trans hlate) ?_
          rw [hnow]
          omega
        · exact h.arrive hle fun r hr => (Nat.le_of_not_lt hlt).trans (hdue r hr)

/-- **Time passes.** When time has passed in a rehearsal, it is as late as it should be, all loops
are still loops at work that can be reached, and none of them is left behind. -/
theorem attended_sleep (h : Attended x) (d : Duration) :
    Attended (x.sleep d) ∧ (x.sleep d).now = x.now + d.nanos ∧
      ∀ r ∈ (x.sleep d).loops, x.now + d.nanos ≤ r.due (x.now + d.nanos) := by
  refine attended_runUntil h (Nat.le_add_right _ _) ?_
  have hbound := loads_le x.loops (x.now + d.nanos) x.now
  rwa [Nat.add_sub_cancel_left] at hbound

/-! ### Everything that is done -/

/-- What is in front of the loops leaves the clock alone. -/
lemma attended_perform {α : Type} {a : Activity Key α} (ha : a.Timeless) (h : Attended x) :
    Attended (x.perform a).1 := by
  induction a generalizing x with
  | done r => exact h
  | update f next ih =>
      refine ih x.ledger (ha _).2 ?_
      show AtWork x.watch (f x.ledger).now x.loops
      rw [(ha x.ledger).1]
      exact h
  | probe limit as next ih =>
      have hasked : Attended { x with stage := x.stage.record (as.map .probe) } := h
      exact ih _ (ha _) (attended_sleep hasked _).1
  | gossip limit a next ih =>
      have hasked : Attended { x with stage := x.stage.record [.gossip a] } := h
      exact ih _ (ha _) (attended_sleep hasked _).1
  | call node next ih => exact ih _ (ha _) h

lemma attended_startWatch (h : Attended x) : Attended x.startWatch := by
  rw [startWatch]
  split_ifs with hzero
  · exact h
  · refine List.forall_mem_append.mpr ⟨h, List.forall_mem_singleton.mpr ?_⟩
    have hreach : (Vigil.start x.watch x.now x.ledger : Vigil Key).Reachable x.watch :=
      ⟨Nat.pos_of_ne_zero hzero, _, _, .refl⟩
    exact ⟨_, hreach, rfl, rfl, .waiting⟩

lemma attended_cancel (h : Attended x) : Attended x.cancel := by
  refine List.forall_mem_map.mpr fun r hr => ?_
  obtain ⟨v, hreach, hshows⟩ := h r hr
  exact ⟨{ v with loop := v.loop.cancel }, hreach.leads (.single .cancel), hshows.now,
    congrArg Watch.Loop.cancel hshows.loop, hshows.phase⟩

/-- One thing that is done in a rehearsal. -/
inductive Acts : Rehearsal → Rehearsal → Prop
  | perform {x : Rehearsal} {α : Type} {a : Activity Key α} (ha : a.Timeless) :
      Acts x (x.perform a).1
  | sleep {x : Rehearsal} (d : Duration) : Acts x (x.sleep d)
  | startWatch {x : Rehearsal} : Acts x x.startWatch
  | cancel {x : Rehearsal} : Acts x x.cancel
  | stop {x : Rehearsal} : Acts x x.stop
  | retell {x : Rehearsal} (parts : List (Address × Part)) : Acts x (x.retell parts)
  | withService {x : Rehearsal} (service : Record → Except Failure Key) :
      Acts x (x.withService service)
  | withDraws {x : Rehearsal} (draws : Nat → Nat) : Acts x (x.withDraws draws)
  | takeCalls {x : Rehearsal} : Acts x x.takeCalls.2

/-- The rehearsals that can be reached, with whatever script and numbers that are drawn. -/
def Reached (x : Rehearsal) : Prop :=
  ∃ strategy script watch, Relation.ReflTransGen Acts (start strategy script watch) x

/-- **Loops of a rehearsal.** Whatever is done in a rehearsal, and whatever is drawn, its loops are
loops at work that can be reached. -/
theorem Reached.attended (h : Reached x) : Attended x := by
  obtain ⟨strategy, script, watch, hacts⟩ := h
  induction hacts with
  | refl => exact fun r hr => absurd hr List.not_mem_nil
  | tail _ hact ih =>
      cases hact with
      | perform ha => exact attended_perform ha ih
      | sleep d => exact (attended_sleep ih d).1
      | startWatch => exact attended_startWatch ih
      | cancel => exact attended_cancel ih
      | stop => exact fun r hr => absurd hr List.not_mem_nil
      | retell parts => exact ih
      | withService service => exact ih
      | withDraws draws => exact ih
      | takeCalls => exact ih

end Rehearsal

end Roster
