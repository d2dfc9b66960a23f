import Roster.Proofs.Watch.Timeless
import Roster.Proofs.Watch.Vigil
import Roster.Rehearsal.Clock

/-!
# Loops of a rehearsal

In a rehearsal an answer is known as soon as a node is asked, and the loop that waits for it is set
to go on with it later. What such a loop does is what a loop at work may do, whatever is drawn when
it can go on in more than one way.

* `Shows`: a loop of a rehearsal and a loop at work do the same.
* `reaches_advance`: a stretch of a pass.
* `proceeds_proceed`: a loop that goes on.
* `AtWork`: some loops of a rehearsal are loops at work; `atWork_proceedFirst`, `atWork_elapse`: so
  they are when one of them goes on, and when time passes.
-/

namespace Roster

open Activity

/-- What follows a loop at work that can be reached can be reached. -/
lemma Vigil.Reachable.leads {τ : Type} {w : Watch} {v v' : Vigil τ} (h : v.Reachable w)
    (hl : Leads w v v') : v'.Reachable w := by
  obtain ⟨hpos, now, l, hreach⟩ := h
  exact ⟨hpos, now, l, hreach.trans hl⟩

/-- If the ledger is at the time of the loop, a pass runs on from this ledger. -/
lemma Vigil.runOn_eq_after {τ : Type} {v : Vigil τ} (h : v.now = v.ledger.now)
    (a : Activity τ Unit) : v.runOn a = v.after (a.settle v.ledger) := by
  rw [runOn, h]

namespace Rehearsal

variable {w : Watch} {s : Stage} {r : Running} {rs : List Running} {v : Vigil Key} {now : Instant}

/-! ### One loop -/

/-- A loop of a rehearsal that is in no pass waits, and one that is to go on with the rest of a pass
has been given an answer. -/
inductive Matches : Option (Instant × Activity Key Unit) → Vigil.Phase Key → Prop
  | waiting : Matches none .waiting
  | passing {wake : Instant} {waits rest : Activity Key Unit} {told : List (Except Failure Key)}
      (hanswer : Answered waits told rest) (hrest : rest.Timeless) :
      Matches (some (wake, rest)) (.passing waits)

/-- At a time, a loop of a rehearsal does what a loop at work does. -/
structure Shows (now : Instant) (r : Running) (v : Vigil Key) : Prop where
  now : v.now = now
  loop : v.loop = r.loop
  phase : Matches r.pass v.phase

/-- What has become of a pass on a stage may become of a loop at work. -/
def Reaches (w : Watch) (v : Vigil Key) (now : Instant) (p : Watch.Loop)
    (x : Stage × Pending Unit) : Prop :=
  x.1.ledger.now = now ∧ ∃ v', Vigil.Leads w v v' ∧ Shows now (.after p x.2) v'

section Reaches

variable {p : Watch.Loop} {x : Stage × Pending Unit} {waits next : Activity Key Unit}
  {told : List (Except Failure Key)}

/-- A pass that is answered at once. -/
lemma reaches_of_answered (hphase : v.phase = .passing waits) (hnow : v.now = v.ledger.now)
    (hanswer : Answered waits told next)
    (h : Reaches w (v.after (next.settle v.ledger)) now p x) : Reaches w v now p x := by
  obtain ⟨hx, v', hleads, hshows⟩ := h
  have hmove : Vigil.Move w v (v.runOn next) := .answer hphase hanswer
  rw [Vigil.runOn_eq_after hnow] at hmove
  exact ⟨hx, v', .head hmove hleads, hshows⟩

/-- A pass that waits for an answer which is known already. -/
lemma reaches_of_waiting {wake : Instant} (hnow : v.now = s.ledger.now)
    (hphase : v.phase = .passing waits) (hanswer : Answered waits told next)
    (hnext : next.Timeless) : Reaches w v v.now v.loop (s, .waiting wake next) :=
  ⟨hnow.symm, v, .refl, rfl, rfl, hphase ▸ .passing hanswer hnext⟩

/-- One stretch of a pass on a stage, which goes on as long as answers are there at once. -/
lemma reaches_advance {a : Activity Key Unit} (ha : a.Timeless) (s : Stage) (v : Vigil Key)
    (hnow : v.now = s.ledger.now) :
    Reaches w (v.after (a.settle s.ledger)) v.now v.loop (s.advance a) := by
  induction a generalizing s v with
  | done r => exact ⟨hnow.symm, _, .refl, rfl, rfl, .waiting⟩
  | update f next ih =>
      obtain ⟨hf, hnext⟩ := ha s.ledger
      exact ih s.ledger hnext (s.mapLedger f) v (hnow.trans hf.symm)
  | probe limit as next ih =>
      let answers := (s.probeRound limit as).answers
      let v₁ : Vigil Key := { v with ledger := s.ledger, phase := .passing (.probe limit as next) }
      have hlength : answers.length = as.length := by
        simp [answers, Stage.probeRound, Round.ofReplies]
      have hanswer : Answered (.probe limit as next) [] (next answers) := .probe _ hlength
      rw [Stage.advance]
      split_ifs with hzero
      · exact reaches_of_answered (v := v₁) rfl hnow hanswer
          (ih answers (ha answers) (s.record _) v₁ hnow)
      · exact reaches_of_waiting (v := v₁) hnow rfl hanswer (ha answers)
  | gossip limit a next ih =>
      let answer := (s.gossipRound limit a).1
      let v₁ : Vigil Key := { v with ledger := s.ledger, phase := .passing (.gossip limit a next) }
      have hanswer : Answered (.gossip limit a next) [] (next answer) := .gossip _
      rw [Stage.advance]
      dsimp only
      split_ifs with hzero
      · exact reaches_of_answered (v := v₁) rfl hnow hanswer
          (ih answer (ha answer) (s.record _) v₁ hnow)
      · exact reaches_of_waiting (v := v₁) hnow rfl hanswer (ha answer)
  | call node next ih =>
      let v₁ : Vigil Key := { v with ledger := s.ledger, phase := .passing (.call node next) }
      have hanswer : Answered (.call node next) [s.service node] (next (s.service node)) := .call _
      exact reaches_of_answered (v := v₁) rfl hnow hanswer
        (ih (s.service node) (ha _) (s.record _) v₁ hnow)

end Reaches

/-- What has become of a loop of a rehearsal may become of a loop at work, and the clock stays where
it is. -/
def Proceeds (w : Watch) (v : Vigil Key) (now : Instant) (x : Stage × Option Running) : Prop :=
  x.1.ledger.now = now ∧ ∃ v', Vigil.Leads w v v' ∧ (∀ r ∈ x.2, Shows now r v') ∧
    (x.2 = none → v'.phase = .ended)

lemma proceeds_of_reaches {v₁ v₂ : Vigil Key} {p : Watch.Loop} {x : Stage × Pending Unit}
    (hothers : Vigil.Move w v v₁) (hmove : Vigil.Move w v₁ v₂) (h : Reaches w v₂ now p x) :
    Proceeds w v now (x.1, some (.after p x.2)) := by
  obtain ⟨hx, v', hleads, hshows⟩ := h
  refine ⟨hx, v', .head hothers (.head hmove hleads), ?_, nofun⟩
  rintro _ ⟨rfl⟩
  exact hshows

/-- **A loop that goes on.** Whatever is drawn, what a loop of a rehearsal does is what a loop at
work may do. -/
theorem proceeds_proceed (w : Watch) (draw : Nat) (h : Shows s.ledger.now r v) :
    Proceeds w v s.ledger.now (r.proceed w draw s) := by
  obtain ⟨p, pass⟩ := r
  obtain ⟨hnow, hloop, hphase⟩ := h
  obtain rfl : v.loop = p := hloop
  -- The ledger may have been changed by others since the loop went on for the last time.
  let v₁ : Vigil Key := { v with ledger := s.ledger }
  have hothers : Vigil.Move w v v₁ := .others s.ledger
  have hsame : v₁.now = s.ledger.now := hnow
  generalize hp : v.phase = phase at hphase
  cases hphase with
  | @passing wake waits rest told hanswer hrest =>
      have hmove : Vigil.Move w v₁ (v₁.runOn rest) := .answer hp hanswer
      rw [Vigil.runOn_eq_after hsame] at hmove
      exact hnow ▸ proceeds_of_reaches hothers hmove (reaches_advance hrest s v₁ hsame)
  | waiting =>
      rw [Running.proceed]
      dsimp only
      cases hdraw : v.loop.branch? draw s.ledger.now with
      | none =>
          exact ⟨rfl, v, .refl, fun r hr => Option.some.inj hr ▸ ⟨hnow, rfl, hp ▸ .waiting⟩, nofun⟩
      | some b =>
          have hbranch : b ∈ v₁.loop.branches v₁.now :=
            hsame ▸ Watch.Loop.exists_branch?_eq_iff.mp ⟨draw, hdraw⟩
          cases b with
          | shutDown =>
              have hmove : Vigil.Move w v₁ v₁.close := .close hp hbranch
              exact ⟨rfl, v₁.close, .head hothers (.single hmove), nofun, fun _ => rfl⟩
          | pass =>
              let v₂ : Vigil Key :=
                { v₁ with loop := v₁.loop.beginPass v₁.now, begun := v₁.begun ++ [v₁.now] }
              have hmove : Vigil.Move w v₁ (v₂.runOn w.notedPass) := .takeUp hp hbranch
              have hreach := reaches_advance (w := w) (Watch.timeless_notedPass w) s v₂ hsame
              have htime : (s.advance w.notedPass).1.ledger.now = v.now := hreach.1
              rw [Vigil.runOn_eq_after (v := v₂) hsame] at hmove
              dsimp only
              rw [htime, ← hnow]
              exact proceeds_of_reaches hothers hmove hreach

/-! ### All loops -/

/-- Some loops of a rehearsal are loops at work that can be reached. -/
def AtWork (w : Watch) (now : Instant) (rs : List Running) : Prop :=
  ∀ r ∈ rs, ∃ v : Vigil Key, v.Reachable w ∧ Shows now r v

/-- The first loop that is due goes on, and all the others stay as they are. -/
lemma atWork_proceedFirst (draw : Nat) (h : AtWork w s.ledger.now rs) :
    (proceedFirst w draw s rs).1.ledger.now = s.ledger.now ∧
      AtWork w s.ledger.now (proceedFirst w draw s rs).2 := by
  induction rs with
  | nil => exact ⟨rfl, h⟩
  | cons r rs ih =>
      obtain ⟨⟨v, hreach, hshows⟩, hrs⟩ := List.forall_mem_cons.mp h
      rw [proceedFirst]
      split_ifs with hdue
      · obtain ⟨hnow, v', hleads, hnext, -⟩ := proceeds_proceed w draw hshows
        refine ⟨hnow, fun r' hr' => ?_⟩
        rcases List.mem_append.mp hr' with hr' | hr'
        · exact ⟨v', hreach.leads hleads, hnext r' (Option.mem_toList.mp hr')⟩
        · exact hrs r' hr'
      · obtain ⟨hnow, hnext⟩ := ih hrs
        exact ⟨hnow, List.forall_mem_cons.mpr ⟨⟨v, hreach, hshows⟩, hnext⟩⟩

/-- Time passes, and no loop is due before. -/
lemma atWork_elapse {now' : Instant} (h : AtWork w now rs) (hle : now ≤ now')
    (hdue : ∀ r ∈ rs, now' ≤ max now (r.due now)) : AtWork w now' rs := by
  intro r hr
  obtain ⟨v, hreach, rfl, hloop, hphase⟩ := h r hr
  have hmove : Vigil.Move w v { v with now := now' } := by
    refine .elapse hle fun hwaits t ht htlt => ?_
    have hlate := hdue r hr
    rw [hwaits] at hphase
    generalize hp : r.pass = pass at hphase
    cases hphase
    rw [Running.due, hp] at hlate
    dsimp only at hlate
    rw [hloop, Watch.Loop.branches_eq_nil_iff]
    have hbound := lt_of_lt_of_le htlt hlate
    cases hcancelled : r.loop.cancelled with
    | true =>
        rw [hcancelled, if_pos rfl, max_self] at hbound
        exact absurd hbound (Nat.not_lt.mpr ht)
    | false =>
        rw [hcancelled, if_neg (by decide)] at hbound
        exact ⟨rfl, (lt_max_iff.mp hbound).resolve_left (Nat.not_lt.mpr ht)⟩
  exact ⟨_, hreach.leads (.single hmove), rfl, hloop, hphase⟩

end Rehearsal

end Roster
