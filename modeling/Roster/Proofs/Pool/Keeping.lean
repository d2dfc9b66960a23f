import Mathlib.Logic.Relation
import Roster.Proofs.Pool.Interleaving
import Roster.Proofs.Pool.Making

/-!
# Nobody is given up

A pool with any number of calls under way, while other callers change its registry as they like.
Whoever does something next, identifiers stay registered; and what leaves or becomes inactive does
so by the changes that are meant for it.

* `Chronicle`: a ledger, and the calls that were made, each with all that it asked and was told.
* `Chronicle.Move`: what may happen next, and who does it.
* `Actor.May`: the changes that somebody may make.
* `Chronicle.Move.makes`: whatever each may do, moves keep to it.
* `Chronicle.Sound`: the invariant. Every call makes only changes that it may make from now on.
* `Chronicle.Reachable.nobody_given_up`: what happens to the members in every run.
-/

namespace Roster

open Activity Discovery Registry

variable {τ : Type}

/-- The changes that a call may make after some exchanges: looking for members makes nobody
inactive, a pass does so only with those that its answers speak against, and calling nodes makes
the last one inactive if it failed. -/
def System.Call.May : System.Call → List (Exchange τ) → Change → Prop
  | .pass w, t, c => c.IsGentle ∨ ∃ records, c = .deactivate records ∧ w.Retires t records
  | .refresh _, _, c | .bootstrap .., _, c | .probeNodes .., _, c => c.IsGentle
  | .withActiveNode _, t, c => ∃ t' reg node f, t = t' ++ [.called reg node (.error f)] ∧
      f.isNodeFailure = true ∧ c = .deactivate [node]

/-- A call makes only changes that it may make. -/
lemma System.Call.makes (call : System.Call) (l : Ledger) :
    Makes (τ := τ) call.May call.activity [] l := by
  cases call with
  | pass w =>
      exact Watch.makes_pass_bind (fun _ _ hc _ => Or.inl hc)
        (fun _ records hretires => Or.inr ⟨records, rfl, hretires⟩) fun _ _ _ => trivial
  | refresh d => exact makes_refresh_bind (fun _ _ hc _ => hc) fun _ _ => trivial
  | bootstrap d seeds => exact makes_bootstrap_bind true (fun _ _ hc _ => hc) fun _ _ _ => trivial
  | probeNodes d records => exact makes_probeNodes_bind true (fun _ _ hc _ => hc) fun _ _ => trivial
  | withActiveNode drawn =>
      exact Pool.makes_withActiveNode_bind (fun t reg node f hf => ⟨t, reg, node, f, rfl, hf, rfl⟩)
        fun _ _ _ => trivial

/-- Who does something. -/
inductive Actor (τ : Type)
  /-- Nobody, or somebody who leaves the registry alone. -/
  | nobody
  /-- Another caller, who makes a change. -/
  | caller (c : Change)
  /-- Another caller, who reports that a node failed. -/
  | reporter (node : Record)
  /-- A call, after some exchanges. -/
  | task (call : System.Call) (told : List (Exchange τ))

/-- The changes that somebody may make. -/
def Actor.May : Actor τ → Change → Prop
  | nobody, _ => False
  | caller c, c' => c' = c
  | reporter node, c => c = .deactivate [node]
  | task made told, c => made.May told c

/-- A call that was made: what it asked and was told so far, the ledger when it asked last, and what
is left to do. -/
structure Chronicle.Task (τ : Type) where
  call : System.Call
  told : List (Exchange τ)
  asking : Ledger
  rest : Activity τ (System.Outcome τ)

/-- A pool at work, with what its calls were told. -/
structure Chronicle (τ : Type) where
  ledger : Ledger
  tasks : List (Chronicle.Task τ)

namespace Chronicle

/-- A pool without members, at which nobody is at work. -/
def start (now : Instant) (strategy : Strategy) : Chronicle τ := ⟨.start now strategy, []⟩

/-- What may happen next, and who does it. -/
inductive Move : Chronicle τ → Actor τ → Chronicle τ → Prop
  /-- Time passes, a node is selected, or events are written out. -/
  | idle {s : Chronicle τ} {l : Ledger} (hl : l.registry = s.ledger.registry) :
      Move s .nobody { s with ledger := l }
  /-- Another caller changes the registry in any way. -/
  | change {s : Chronicle τ} (c : Change) :
      Move s (.caller c) { s with ledger := c.perform s.ledger }
  /-- Another caller reports that a node failed. -/
  | report {s : Chronicle τ} (node : Record) (f : Failure) :
      Move s (.reporter node) { s with ledger := (Pool.reportFailure node f s.ledger).2 }
  /-- A call is made, and does its first stretch. -/
  | call {s : Chronicle τ} (call : System.Call) :
      Move s (.task call []) { s with
        ledger := (call.activity.settle s.ledger : Ledger × Activity τ (System.Outcome τ)).1
        tasks := s.tasks ++ [⟨call, [], (call.activity.settle s.ledger :
          Ledger × Activity τ (System.Outcome τ)).1, (call.activity.settle s.ledger).2⟩] }
  /-- A task is told something, and does its next stretch. -/
  | answer {s : Chronicle τ} {i : Nat} {task : Task τ} {x : Exchange τ}
      {next : Activity τ (System.Outcome τ)} (htask : s.tasks[i]? = some task)
      (htold : Told task.asking.registry task.rest x next) :
      Move s (.task task.call (task.told ++ [x])) { s with
        ledger := (next.settle s.ledger).1
        tasks := s.tasks.set i ⟨task.call, task.told ++ [x], (next.settle s.ledger).1,
          (next.settle s.ledger).2⟩ }

/-- One chronicle is followed by another one. -/
def Leads : Chronicle τ → Chronicle τ → Prop :=
  Relation.ReflTransGen fun s s' => ∃ who, Move s who s'

/-- The chronicles that can be reached. -/
def Reachable (s : Chronicle τ) : Prop := ∃ now strategy, Leads (start now strategy) s

/-! ### The invariant -/

/-- What holds of every chronicle that can be reached. -/
structure Sound (s : Chronicle τ) : Prop where
  wellFormed : s.ledger.registry.WellFormed
  makes : ∀ task ∈ s.tasks, Makes task.call.May task.rest task.told task.asking

variable {s s' : Chronicle τ} {who : Actor τ}

/-- Whatever each may do: if calls do only what they may, then so does every move, and what is left
of the calls after it. -/
lemma Move.makes {P : Actor τ → Change → Prop} (hm : Move s who s')
    (hcaller : ∀ c, P (.caller c) c) (hreporter : ∀ node, P (.reporter node) (.deactivate [node]))
    (hcall : ∀ (call : System.Call) l, Makes (fun t => P (.task call t)) call.activity [] l)
    (h : ∀ task ∈ s.tasks,
      Makes (fun t => P (.task task.call t)) task.rest task.told task.asking) :
    Via (P who) s.ledger.registry s'.ledger.registry ∧ ∀ task ∈ s'.tasks,
      Makes (fun t => P (.task task.call t)) task.rest task.told task.asking := by
  cases hm with
  | idle hl =>
      refine ⟨?_, h⟩
      rw [hl]
      exact Via.refl _
  | change c =>
      rw [c.registry_perform]
      exact ⟨Via.single (hcaller c) _ _, h⟩
  | report node f =>
      rw [Pool.registry_reportFailure]
      exact ⟨Via.single (c := .deactivate [node]) (hreporter node) _ _, h⟩
  | call call =>
      obtain ⟨hvia, hrest⟩ := (hcall call s.ledger).settle
      refine ⟨hvia, fun task htask => ?_⟩
      rcases List.mem_append.mp htask with htask | htask
      · exact h task htask
      · rw [List.mem_singleton.mp htask]
        exact hrest
  | answer htask htold =>
      obtain ⟨hvia, hrest⟩ := ((h _ (List.mem_of_getElem? htask)).told htold s.ledger).settle
      refine ⟨hvia, fun task' htask' => ?_⟩
      rcases List.mem_or_eq_of_mem_set htask' with htask' | rfl
      · exact h task' htask'
      · exact hrest

/-- Every move makes changes only that whoever makes it may make, and keeps the invariant. -/
lemma Sound.move (h : Sound s) (hm : Move s who s') :
    Via who.May s.ledger.registry s'.ledger.registry ∧ Sound s' := by
  obtain ⟨hvia, hmakes⟩ := hm.makes (P := Actor.May) (fun _ => rfl) (fun _ => rfl)
    (fun call l => call.makes l) h.makes
  exact ⟨hvia, hvia.wellFormed h.wellFormed, hmakes⟩

lemma Sound.leads (h : Sound s) (hl : Leads s s') : Sound s' := by
  induction hl with
  | refl => exact h
  | tail _ hm ih =>
      obtain ⟨who, hm⟩ := hm
      exact (ih.move hm).2

lemma Reachable.sound (h : Reachable s) : Sound s := by
  obtain ⟨now, strategy, hl⟩ := h
  exact Sound.leads ⟨WellFormed.empty, by simp [Chronicle.start]⟩ hl

/-- Identifiers stay registered. -/
lemma Sound.contains_identifier (h : Sound s) (hl : Leads s s') {i : String}
    (hi : s.ledger.registry.contains (.identifier i) = true) :
    s'.ledger.registry.contains (.identifier i) = true := by
  induction hl with
  | refl => exact hi
  | tail hl hm ih =>
      obtain ⟨who, hm⟩ := hm
      obtain ⟨deeds, -, hreg⟩ := ((h.leads hl).move hm).1
      by_contra hgone
      rw [hreg] at hgone
      obtain ⟨before, d, after, -, hbefore, hturn⟩ :=
        exists_turn (p := fun reg => reg.contains (.identifier i) = true) ih hgone
      exact hturn ((((h.leads hl).wellFormed.replay before).keeps d.1 d.2).identifier i hbefore)

/-- **Nobody is given up.** Let any number of passes, refreshes, bootstraps, probes and calls of
active nodes be under way, with any answers, while others change the registry in any way and report
failures. Then an identifier that is registered stays so. Whatever is done next comes to a list of
changes that whoever does it may make, and each of these changes keeps what it is not meant to end:
an entry without an identifier leaves only when its member tells one, or when somebody who is new
is listed at its address and is registered then; and an active member with an identifier becomes
inactive only when it is among those that are to become so. This is done by other callers, by a
report, by a pass with the members that its answers speak against, and by the call of a node
that failed; so looking for members does not do it. -/
theorem Reachable.nobody_given_up (h : Reachable s) :
    (∀ s', Leads s s' → ∀ i, s.ledger.registry.contains (.identifier i) = true →
      s'.ledger.registry.contains (.identifier i) = true) ∧
    ∀ who s', Move s who s' → ∃ deeds : List (Instant × Change),
      s'.ledger.registry = s.ledger.registry.replay deeds ∧ (∀ d ∈ deeds, who.May d.2) ∧
      (∀ before d after, deeds = before ++ d :: after →
        d.2.Keeps d.1 (s.ledger.registry.replay before)) ∧
      (∀ a, s.ledger.registry.contains (.address a) = true →
        s'.ledger.registry.contains (.address a) = false → ∃ d ∈ deeds,
          (∃ id hash, d.2 = .resolve a id hash) ∨ ∃ id hash, d.2 = .mergeMember id a hash) ∧
      ∀ i, s.ledger.registry.isActive? (.identifier i) = some true →
        s'.ledger.registry.isActive? (.identifier i) ≠ some true →
        ∃ records, who.May (.deactivate records) ∧ .identifier i ∈ records.map Record.key := by
  have hsound := h.sound
  refine ⟨fun s' hl i hi => hsound.contains_identifier hl hi, fun who s' hm => ?_⟩
  obtain ⟨deeds, hmay, hreg⟩ := (hsound.move hm).1
  have hkeeps : ∀ before (d : Instant × Change),
      d.2.Keeps d.1 (s.ledger.registry.replay before) :=
    fun before d => (hsound.wellFormed.replay before).keeps d.1 d.2
  -- What is there before the move and not after it ends with one of the changes.
  refine ⟨deeds, hreg, hmay, fun before d _ _ => hkeeps before d, fun a ha hgone => ?_,
    fun i hi hout => ?_⟩
  · rw [hreg, ← Bool.not_eq_true] at hgone
    obtain ⟨before, d, after, rfl, hbefore, hturn⟩ :=
      exists_turn (p := fun reg => reg.contains (.address a) = true) ha hgone
    refine ⟨d, by simp, ?_⟩
    rcases (hkeeps before d).address a hbefore (by simpa using hturn) with
      hresolve | ⟨id, hash, hmerge, -⟩
    · exact Or.inl hresolve
    · exact Or.inr ⟨id, hash, hmerge⟩
  · rw [hreg] at hout
    obtain ⟨before, d, after, rfl, hbefore, hturn⟩ :=
      exists_turn (p := fun reg => reg.isActive? (.identifier i) = some true) hi hout
    obtain ⟨records, hd, hmem⟩ := (hkeeps before d).active i hbefore hturn
    exact ⟨records, hd ▸ hmay d (by simp), hmem⟩

/-- A pass makes a member inactive that did not answer, and that stays registered. -/
lemma nobody_given_up_of_silent_member :
    let w : Watch := ⟨⟨⟨1⟩, true⟩, ⟨1⟩, none⟩
    ∃ (s s' : Chronicle Unit) (told : List (Exchange Unit)), Reachable s ∧
      Move s (.task (.pass w) told) s' ∧
      s.ledger.registry.isActive? (.identifier "a") = some true ∧
      s'.ledger.registry.isActive? (.identifier "a") = some false ∧
      s'.ledger.registry.contains (.identifier "a") = true ∧
      ∃ records, w.Retires told records ∧ .identifier "a" ∈ records.map Record.key := by
  intro w
  let a : Address := ⟨"http", none, .whole "a", none, none⟩
  have h₀ : Leads (start 0 .first : Chronicle Unit) (start 0 .first) := Relation.ReflTransGen.refl
  have h₁ := h₀.tail ⟨_, .change (.mergeMember "a" a none)⟩
  have h₂ := h₁.tail ⟨_, .call (.pass w)⟩
  obtain ⟨s, s', told, hreach, hmove, hbefore, hafter⟩ : ∃ (s s' : Chronicle Unit)
      (told : List (Exchange Unit)), Reachable s ∧ Move s (.task (.pass w) told) s' ∧
      s.ledger.registry.isActive? (.identifier "a") = some true ∧
      s'.ledger.registry.isActive? (.identifier "a") = some false :=
    ⟨_, _, _, ⟨0, .first, h₂⟩, @Move.answer Unit _ 0 ⟨.pass w, [], _, _⟩ _ _ rfl
      (.probe [.error (.noAnswer a ⟨1⟩)] rfl), by decide, by decide⟩
  obtain ⟨hstays, hmoves⟩ := hreach.nobody_given_up
  obtain ⟨deeds, -, -, -, -, hactive⟩ := hmoves _ _ hmove
  obtain ⟨records, hmay, hmem⟩ := hactive "a" hbefore (by simp [hafter])
  have hcontains : s.ledger.registry.contains (.identifier "a") = true := by
    obtain ⟨e, he, -⟩ := isActive?_eq_some_iff.mp hbefore
    exact contains_iff_exists_find?.mpr ⟨e, he⟩
  refine ⟨s, s', told, hreach, hmove, hbefore, hafter,
    hstays s' (.single ⟨_, hmove⟩) "a" hcontains, records, ?_, hmem⟩
  rcases hmay with hgentle | ⟨records', heq, hretires⟩
  · exact absurd hgentle id
  · cases heq
    exact hretires

end Chronicle

end Roster
