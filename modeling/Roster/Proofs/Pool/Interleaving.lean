import Roster.Proofs.Pool.Safety

/-!
# Many activities at once

A pool with any number of activities that run in stretches, while other callers change the
registry between the stretches. What an activity asks is answered in any way and at any time.

* `System`: a ledger, the activities on it, and the records that were read from the registry.
* `System.Step`: a change by another caller, a reading, the first stretch of a new activity, or
  the next stretch of one that was answered.
* `System.Sound`: the invariant. All registries come from one another by orderly changes, and
  every activity is safe from the present one on.
* `System.Reachable.resolved_and_blameless`: in every system that can be reached, active members
  have identifiers, and no activity misses an entry that it counts on.
-/

namespace Roster

open Activity Discovery Registry

variable {τ : Type}

/-- A change of the registry of a ledger, with what it notes. -/
def Change.perform : Change → Ledger → Ledger
  | add records, l => l.add records
  | activate records, l => (l.activate records).2
  | deactivate records, l => (l.deactivate records).2
  | resolve a id hash, l => (l.resolve a id hash).2
  | mergeMember id a hash, l => (l.mergeMember id a hash).2
  | updateHash id hash, l => l.updateHash id hash

lemma Change.registry_perform (c : Change) (l : Ledger) :
    (c.perform l).registry = c.apply l.now l.registry := by
  cases c <;> rfl

namespace System

/-! ### Calls -/

/-- What may be called and runs in stretches. -/
inductive Call
  | pass (w : Watch)
  | refresh (d : Discovery)
  | bootstrap (d : Discovery) (seeds : List Address)
  | probeNodes (d : Discovery) (records : List Record)
  | withActiveNode (drawn : Nat)

/-- What a call yields. -/
inductive Outcome (τ : Type)
  | passed (r : Except Failure PassSummary)
  | refreshed (report : RefreshReport)
  | bootstrapped (r : Except Failure Nat)
  | probed (r : Except Failure ProbeReport)
  | served (r : Except Failure τ)

/-- Why a call did not succeed. -/
def Outcome.failure? : Outcome τ → Option Failure
  | passed (.error f) | bootstrapped (.error f) | probed (.error f) | served (.error f) => some f
  | _ => none

/-- What a call does. -/
def Call.activity : Call → Activity τ (Outcome τ)
  | pass w => w.pass.bind fun r => .done (.passed r)
  | refresh d => d.refresh.bind fun report => .done (.refreshed report)
  | bootstrap d seeds => (d.bootstrap seeds).bind fun r => .done (.bootstrapped r)
  | probeNodes d records => (d.probeNodes records).bind fun r => .done (.probed r)
  | withActiveNode drawn => (Pool.withActiveNode drawn).bind fun r => .done (.served r)

/-- A call may be made if the records that it is about were read from the registry. -/
def Call.IsAbout (read : List Record) : Call → Prop
  | probeNodes _ records => ∀ r ∈ records, r ∈ read
  | _ => True

/-- If an outcome is that the registry has no entry that it has to have, then a node gave this as
its answer, the last one that was heard. -/
def Call.Blameless (call : Call) (heard : List (Except Failure τ)) (outcome : Outcome τ) : Prop :=
  ∀ text, outcome.failure? = some (.invariantViolation text) →
    (∃ drawn, call = .withActiveNode drawn) ∧
      heard.getLast? = some (.error (.invariantViolation text))

/-- Whatever others do meanwhile, a call makes orderly changes only, and counts on no entry that is
not there. -/
lemma Call.safe {call : Call} {reg : Registry} {read : List Record} (ho : reg.Orderly)
    (hread : ∀ r ∈ read, reg.Knows r) (habout : call.IsAbout read) :
    Safe (τ := τ) call.Blameless call.activity [] reg := by
  cases call with
  | pass w =>
      exact Watch.safe_pass_bind fun s reg' _ text h => absurd h (by simp [Outcome.failure?])
  | refresh d =>
      exact safe_refresh_bind fun report reg' _ _ text h => absurd h (by simp [Outcome.failure?])
  | bootstrap d seeds =>
      refine safe_bootstrap_bind fun result reg' _ hresult text h => ?_
      cases result with
      | ok n => exact absurd h (by simp [Outcome.failure?])
      | error f => exact absurd (congrArg Except.error (Option.some.inj h)) (hresult text)
  | probeNodes d records =>
      exact safe_probeNodes_bind ho (fun r hr => hread r (habout r hr))
        fun report reg' _ text h => absurd h (by simp [Outcome.failure?])
  | withActiveNode drawn =>
      refine Pool.safe_withActiveNode_bind fun heard reg' r _ hr text h => ?_
      cases r with
      | ok v => exact absurd h (by simp [Outcome.failure?])
      | error f =>
          obtain rfl : f = .invariantViolation text := Option.some.inj h
          exact ⟨⟨drawn, rfl⟩, hr.resolve_left (by simp)⟩

/-- A call that was made: the answers of nodes that it has heard, and what is left to do. -/
structure Task (τ : Type) where
  call : Call
  heard : List (Except Failure τ)
  rest : Activity τ (Outcome τ)

end System

/-- A pool at work. -/
structure System (τ : Type) where
  ledger : Ledger
  tasks : List (System.Task τ)
  /-- The records that were read from the registry so far. -/
  read : List Record

namespace System

/-- A pool without members, at which nobody is at work. -/
def start (now : Instant) (strategy : Strategy) : System τ := ⟨.start now strategy, [], []⟩

/-- What may happen next. -/
inductive Step : System τ → System τ → Prop
  /-- Time passes. -/
  | wait {s : System τ} (now : Instant) : Step s { s with ledger := { s.ledger with now := now } }
  /-- Another caller changes the registry; it makes members active only under identifiers. -/
  | change {s : System τ} (c : Change) (hc : c.IsOrderly) :
      Step s { s with ledger := c.perform s.ledger }
  /-- Somebody reads the registry. -/
  | read {s : System τ} :
      Step s { s with read := s.read ++ s.ledger.registry.entries.map Entry.record }
  /-- A call is made, and does its first stretch. -/
  | call {s : System τ} (call : Call) (habout : call.IsAbout s.read) :
      Step s { s with
        ledger := (call.activity.settle s.ledger : Ledger × Activity τ (Outcome τ)).1
        tasks := s.tasks ++ [⟨call, [], (call.activity.settle s.ledger).2⟩] }
  /-- A task is answered, and does its next stretch. -/
  | answer {s : System τ} {i : Nat} {task : Task τ} {told : List (Except Failure τ)}
      {next : Activity τ (Outcome τ)} (htask : s.tasks[i]? = some task)
      (hanswer : Answered task.rest told next) :
      Step s { s with
        ledger := (next.settle s.ledger).1
        tasks := s.tasks.set i ⟨task.call, task.heard ++ told, (next.settle s.ledger).2⟩ }

/-- The systems that can be reached. -/
inductive Reachable : System τ → Prop
  | start (now : Instant) (strategy : Strategy) : Reachable (start now strategy)
  | step {s s' : System τ} (h : Reachable s) (hs : Step s s') : Reachable s'

/-! ### The invariant -/

/-- What holds of every system that can be reached. -/
structure Sound (s : System τ) : Prop where
  orderly : s.ledger.registry.Orderly
  known : ∀ r ∈ s.read, s.ledger.registry.Knows r
  safe : ∀ task ∈ s.tasks, Safe task.call.Blameless task.rest task.heard s.ledger.registry

variable {s s' : System τ}

/-- Orderly changes of the registry harm nobody. -/
lemma Sound.mono (h : Sound s) {l : Ledger} (hlead : LeadsTo s.ledger.registry l.registry) :
    Sound { s with ledger := l } where
  orderly := hlead.orderly h.orderly
  known r hr := hlead.knows h.orderly.toWellFormed (h.known r hr)
  safe task htask := (h.safe task htask).mono hlead

/-- Every step keeps the invariant. -/
lemma Sound.step (h : Sound s) (hs : Step s s') : Sound s' := by
  cases hs with
  | wait now => exact h.mono (LeadsTo.refl _)
  | change c hc =>
      refine h.mono ?_
      rw [c.registry_perform]
      exact LeadsTo.single hc _ _
  | read =>
      refine ⟨h.orderly, fun r hr => ?_, h.safe⟩
      rcases List.mem_append.mp hr with hr | hr
      · exact h.known r hr
      · exact h.orderly.knows hr
  | call call habout =>
      obtain ⟨hlead, hrest⟩ :=
        (call.safe (τ := τ) h.orderly h.known habout).settle h.orderly (LeadsTo.refl _)
      obtain ⟨horderly, hknown, hsafe⟩ := h.mono hlead
      refine ⟨horderly, hknown, fun task htask => ?_⟩
      rcases List.mem_append.mp htask with htask | htask
      · exact hsafe task htask
      · rw [List.mem_singleton.mp htask]
        exact hrest
  | answer htask hanswer =>
      obtain ⟨hlead, hrest⟩ := ((h.safe _ (List.mem_of_getElem? htask)).answered hanswer).settle
        h.orderly (LeadsTo.refl _)
      obtain ⟨horderly, hknown, hsafe⟩ := h.mono hlead
      refine ⟨horderly, hknown, fun task' htask' => ?_⟩
      rcases List.mem_or_eq_of_mem_set htask' with htask' | rfl
      · exact hsafe task' htask'
      · exact hrest

lemma Reachable.sound (h : Reachable s) : Sound s := by
  induction h with
  | start now strategy => exact ⟨Orderly.empty, by simp [System.start], by simp [System.start]⟩
  | step _ hs ih => exact ih.step hs

/-- **Many at once.** Let any number of passes, refreshes, bootstraps, probes of members that were
read from the registry, and calls of active nodes be under way, with any answers, while others
change the registry, making members active only under identifiers. Then every active member has
an identifier at any time. And no call fails for want of an entry, neither in what it does itself
nor when it reports the failure of a node: if it yields such a failure, a node that it called
gave it as its last answer. -/
theorem Reachable.resolved_and_blameless (h : Reachable s) :
    (∀ r ∈ s.ledger.registry.active, r.isResolved = true) ∧
    ∀ task ∈ s.tasks, ∀ outcome, task.rest = .done outcome →
      ∀ text, outcome.failure? = some (.invariantViolation text) →
        (∃ drawn, task.call = .withActiveNode drawn) ∧
          task.heard.getLast? = some (.error (.invariantViolation text)) := by
  obtain ⟨horderly, -, hsafe⟩ := h.sound
  refine ⟨fun r hr => (horderly.knows_of_active hr).1, fun task htask outcome hdone => ?_⟩
  have hblameless := hsafe task htask
  rw [hdone] at hblameless
  exact hblameless

/-- A member of which only the address is known is asked, and is taken over as a listed one before
it answers. -/
lemma resolved_and_blameless_of_overtaken_call :
    let a : Address := ⟨"http", none, .whole "a", none, none⟩
    ∃ s : System Unit, Reachable s ∧
      (∃ task ∈ s.tasks, ∃ report, task.rest = .done (.probed (.ok report))) ∧
      s.ledger.registry.active = [.resolved a "a" none] ∧
      ∀ r ∈ s.ledger.registry.active, r.isResolved = true := by
  intro a
  have h₀ : Reachable (τ := Unit) (start 0 .first) := .start 0 .first
  have h₁ := (h₀.step (.change (.add [.unresolved a]) trivial)).step .read
  have h₂ := h₁.step (.call (.probeNodes ⟨⟨1⟩, true⟩ [.unresolved a]) fun r hr => hr)
  have h₃ := h₂.step (.change (.mergeMember "a" a none) trivial)
  have h₄ := h₃.step (.answer (i := 0) rfl (.probe [.ok ⟨"a", "", []⟩] rfl))
  refine ⟨_, h₄, ?_, ?_, h₄.resolved_and_blameless.1⟩
  · exact ⟨_, List.mem_cons_self, _, rfl⟩
  · decide

end System

end Roster
