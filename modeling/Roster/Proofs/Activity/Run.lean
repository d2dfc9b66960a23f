import Mathlib.Data.List.Forall2
import Mathlib.Tactic.Lemma
import Roster.Activity

/-!
# Runs of activities

A run of an activity is what it does from beginning to end, given what it is answered and what
others do to the ledger while it waits. The run is described by its transcript: every question
that was asked, with the registry as it was at that moment, and the answer.

* `Activity.Runs`: the runs of an activity, `others` being what may happen to the ledger during
  a wait.
* `runs_bind_iff`: a run of two activities one after the other is a run of the first and then one
  of the second; `runs_change_bind_iff`, `runs_look_bind_iff`, `runs_probeAll_bind_iff`,
  `runs_gossipOne_bind_iff` and `runs_callOne_bind_iff` take the first stretch of a run away.
* `runs_runWith`: what `Activity.runWith` yields with a client is a run, in which every answer
  comes from the client.
* `exists_runs_of_answers`: if all answers of a client have a property, they have it in its run.
* `Client.chorus`: a client of nodes that all answer with the same view; `Client.steady`: a client
  of nodes whose answers depend on nothing but the address.
-/

namespace Roster

/-- Between the two ledgers nothing but time passes. -/
def Ledger.Later (l l' : Ledger) : Prop := ∃ now, l' = { l with now := now }

lemma Ledger.Later.refl (l : Ledger) : l.Later l := ⟨l.now, rfl⟩

lemma Ledger.Later.registry_eq {l l' : Ledger} (h : l.Later l') : l'.registry = l.registry := by
  obtain ⟨now, rfl⟩ := h
  rfl

namespace Activity

variable {τ α β σ : Type}

/-- A question that an activity asked, the registry at that moment, and the answer. -/
inductive Exchange (τ : Type)
  /-- Nodes were asked together which members there are; there is one answer for each. -/
  | probed (reg : Registry) (asked : List Address) (answers : List (Except Failure TopologyView))
  /-- A node was asked what it has heard. -/
  | gossiped (reg : Registry) (peer : Address) (answer : Except Failure GossipView)
  /-- A node was called on behalf of the user. -/
  | called (reg : Registry) (node : Record) (answer : Except Failure τ)

/-- The runs of an activity from a ledger, with their transcript, result and ledger in the end.
During a wait the ledger changes as `others` says. -/
inductive Runs (others : Ledger → Ledger → Prop) :
    Activity τ α → Ledger → List (Exchange τ) → α → Ledger → Prop
  | done (r : α) (l : Ledger) : Runs others (.done r) l [] r l
  | update {f : Ledger → Ledger} {next : Ledger → Activity τ α} {l t r l'}
      (h : Runs others (next l) (f l) t r l') : Runs others (.update f next) l t r l'
  | probe {limit as} {next : List (Except Failure TopologyView) → Activity τ α}
      {l l₁ answers t r l'} (hlength : answers.length = as.length) (hwait : others l l₁)
      (h : Runs others (next answers) l₁ t r l') :
      Runs others (.probe limit as next) l (.probed l.registry as answers :: t) r l'
  | gossip {limit a} {next : Except Failure GossipView → Activity τ α} {l l₁ answer t r l'}
      (hwait : others l l₁) (h : Runs others (next answer) l₁ t r l') :
      Runs others (.gossip limit a next) l (.gossiped l.registry a answer :: t) r l'
  | call {node} {next : Except Failure τ → Activity τ α} {l l₁ answer t r l'}
      (hwait : others l l₁) (h : Runs others (next answer) l₁ t r l') :
      Runs others (.call node next) l (.called l.registry node answer :: t) r l'

variable {others : Ledger → Ledger → Prop} {l l' : Ledger} {t : List (Exchange τ)}

/-! ### One stretch after the other -/

lemma bind_eq (a : Activity τ α) (k : α → Activity τ β) : a >>= k = a.bind k := rfl

lemma runs_done_iff {x r : α} :
    Runs others (done x : Activity τ α) l t r l' ↔ t = [] ∧ r = x ∧ l' = l := by
  refine ⟨fun h => ?_, ?_⟩
  · cases h
    exact ⟨rfl, rfl, rfl⟩
  · rintro ⟨rfl, rfl, rfl⟩
    exact .done _ _

/-- A run of two activities one after the other. -/
lemma runs_bind_iff {a : Activity τ α} {k : α → Activity τ β} {r : β} :
    Runs others (a.bind k) l t r l' ↔
      ∃ t₁ t₂ x l₁, t = t₁ ++ t₂ ∧ Runs others a l t₁ x l₁ ∧ Runs others (k x) l₁ t₂ r l' := by
  constructor
  · intro h
    induction a generalizing l t with
    | done x => exact ⟨[], t, x, l, rfl, .done x l, h⟩
    | update f next ih =>
        cases h with
        | update h =>
            obtain ⟨t₁, t₂, x, l₁, rfl, h₁, h₂⟩ := ih _ h
            exact ⟨t₁, t₂, x, l₁, rfl, .update h₁, h₂⟩
    | probe limit as next ih =>
        cases h with
        | probe hlength hwait h =>
            obtain ⟨t₁, t₂, x, l₁, rfl, h₁, h₂⟩ := ih _ h
            exact ⟨_, t₂, x, l₁, List.cons_append.symm, .probe hlength hwait h₁, h₂⟩
    | gossip limit a next ih =>
        cases h with
        | gossip hwait h =>
            obtain ⟨t₁, t₂, x, l₁, rfl, h₁, h₂⟩ := ih _ h
            exact ⟨_, t₂, x, l₁, List.cons_append.symm, .gossip hwait h₁, h₂⟩
    | call node next ih =>
        cases h with
        | call hwait h =>
            obtain ⟨t₁, t₂, x, l₁, rfl, h₁, h₂⟩ := ih _ h
            exact ⟨_, t₂, x, l₁, List.cons_append.symm, .call hwait h₁, h₂⟩
  · rintro ⟨t₁, t₂, x, l₁, rfl, h₁, h₂⟩
    induction h₁ with
    | done x l => exact h₂
    | update _ ih => exact .update (ih h₂)
    | probe hlength hwait _ ih => exact .probe hlength hwait (ih h₂)
    | gossip hwait _ ih => exact .gossip hwait (ih h₂)
    | call hwait _ ih => exact .call hwait (ih h₂)

lemma runs_update_iff {f : Ledger → Ledger} {next : Ledger → Activity τ α} {r : α} :
    Runs others (update f next) l t r l' ↔ Runs others (next l) (f l) t r l' := by
  refine ⟨fun h => ?_, .update⟩
  cases h with
  | update h => exact h

lemma runs_look_bind_iff {f : Ledger → β} {k : β → Activity τ α} {r : α} :
    Runs others ((look f).bind k) l t r l' ↔ Runs others (k (f l)) l t r l' := runs_update_iff

lemma runs_change_bind_iff {f : Ledger → β × Ledger} {k : β → Activity τ α} {r : α} :
    Runs others ((change f).bind k) l t r l' ↔ Runs others (k (f l).1) (f l).2 t r l' :=
  runs_update_iff

lemma runs_change_iff {f : Ledger → α × Ledger} {r : α} :
    Runs others (change f : Activity τ α) l t r l' ↔ t = [] ∧ r = (f l).1 ∧ l' = (f l).2 := by
  rw [change, runs_update_iff, runs_done_iff]

lemma runs_note_bind_iff {e : Log.Event} {k : Unit → Activity τ α} {r : α} :
    Runs others ((note e).bind k) l t r l' ↔ Runs others (k ()) (l.note e) t r l' :=
  runs_update_iff

lemma runs_probeAll_bind_iff {limit : Duration} {as : List Address}
    {k : List (Except Failure TopologyView) → Activity τ α} {r : α} :
    Runs others ((probeAll limit as).bind k) l t r l' ↔
      ∃ answers l₁ t', answers.length = as.length ∧ others l l₁ ∧
        t = .probed l.registry as answers :: t' ∧ Runs others (k answers) l₁ t' r l' := by
  constructor
  · intro h
    cases h with
    | probe hlength hwait h => exact ⟨_, _, _, hlength, hwait, rfl, h⟩
  · rintro ⟨answers, l₁, t', hlength, hwait, rfl, h⟩
    exact .probe hlength hwait h

lemma runs_gossipOne_bind_iff {limit : Duration} {a : Address}
    {k : Except Failure GossipView → Activity τ α} {r : α} :
    Runs others ((gossipOne limit a).bind k) l t r l' ↔
      ∃ answer l₁ t', others l l₁ ∧ t = .gossiped l.registry a answer :: t' ∧
        Runs others (k answer) l₁ t' r l' := by
  constructor
  · intro h
    cases h with
    | gossip hwait h => exact ⟨_, _, _, hwait, rfl, h⟩
  · rintro ⟨answer, l₁, t', hwait, rfl, h⟩
    exact .gossip hwait h

lemma runs_callOne_bind_iff {node : Record} {k : Except Failure τ → Activity τ α} {r : α} :
    Runs others ((callOne node).bind k) l t r l' ↔
      ∃ answer l₁ t', others l l₁ ∧ t = .called l.registry node answer :: t' ∧
        Runs others (k answer) l₁ t' r l' := by
  constructor
  · intro h
    cases h with
    | call hwait h => exact ⟨_, _, _, hwait, rfl, h⟩
  · rintro ⟨answer, l₁, t', hwait, rfl, h⟩
    exact .call hwait h

/-! ### Runs with a client -/

/-- A client whose answers may depend on all that it was asked before gave the answer of an
exchange. -/
def Exchange.From (c : Client (StateM σ) τ) : Exchange τ → Prop
  | probed _ asked answers => ∃ limit st, answers = ((c.probe limit asked).run st).1
  | gossiped _ peer answer => ∃ limit st, answer = ((c.gossip limit peer).run st).1
  | called _ node answer => ∃ st, answer = ((c.call node).run st).1

/-- What an activity yields with a client that answers every question is a run. -/
theorem runs_runWith (hrefl : ∀ l, others l l) (c : Client (StateM σ) τ)
    (hc : ∀ limit as st, ((c.probe limit as).run st).1.length = as.length)
    (a : Activity τ α) (l : Ledger) (st : σ) :
    ∃ t, Runs others a l t (((runWith c a).run l).run st).1.1 (((runWith c a).run l).run st).1.2 ∧
      ∀ x ∈ t, Exchange.From c x := by
  induction a generalizing l st with
  | done r => exact ⟨[], .done r l, by simp⟩
  | update f next ih =>
      obtain ⟨t, h, hfrom⟩ := ih l (f l) st
      exact ⟨t, .update h, hfrom⟩
  | probe limit as next ih =>
      obtain ⟨t, h, hfrom⟩ := ih ((c.probe limit as).run st).1 l ((c.probe limit as).run st).2
      refine ⟨_, .probe (hc limit as st) (hrefl l) h, fun x hx => ?_⟩
      rcases List.mem_cons.mp hx with rfl | hx
      · exact ⟨limit, st, rfl⟩
      · exact hfrom x hx
  | gossip limit a next ih =>
      obtain ⟨t, h, hfrom⟩ := ih ((c.gossip limit a).run st).1 l ((c.gossip limit a).run st).2
      refine ⟨_, .gossip (hrefl l) h, fun x hx => ?_⟩
      rcases List.mem_cons.mp hx with rfl | hx
      · exact ⟨limit, st, rfl⟩
      · exact hfrom x hx
  | call node next ih =>
      obtain ⟨t, h, hfrom⟩ := ih ((c.call node).run st).1 l ((c.call node).run st).2
      refine ⟨_, .call (hrefl l) h, fun x hx => ?_⟩
      rcases List.mem_cons.mp hx with rfl | hx
      · exact ⟨st, rfl⟩
      · exact hfrom x hx

/-- If a client answers every address in a way that has a property, what an activity yields with it
is a run in which every address was answered so, and nothing but time passed during waits. -/
lemma exists_runs_of_answers {p : Address → Except Failure TopologyView → Prop}
    {c : Client (StateM σ) τ}
    (h : ∀ limit as st, List.Forall₂ p as ((c.probe limit as).run st).1)
    (a : Activity τ α) (l : Ledger) (st : σ) :
    ∃ t, Runs Ledger.Later a l t (((runWith c a).run l).run st).1.1
        (((runWith c a).run l).run st).1.2 ∧
      ∀ reg as answers, .probed reg as answers ∈ t → List.Forall₂ p as answers := by
  obtain ⟨t, hrun, hfrom⟩ := runs_runWith Ledger.Later.refl c
    (fun limit as st => (h limit as st).length_eq.symm) a l st
  refine ⟨t, hrun, fun reg as answers hx => ?_⟩
  obtain ⟨limit, st, rfl⟩ := hfrom _ hx
  exact h limit as st

/-- A client of nodes that all answer with the same view. -/
def Client.chorus (v : TopologyView) : Client (StateM Unit) Unit where
  probe _ as := pure (as.map fun _ => .ok v)
  gossip limit a := pure (.error (.noAnswer a limit))
  call _ := pure (.ok ())

lemma Client.chorus_probe (v : TopologyView) (limit : Duration) (as : List Address) (st : Unit) :
    List.Forall₂ (fun _ answer => answer = .ok v) as (((chorus v).probe limit as).run st).1 :=
  List.forall₂_map_right_iff.mpr (List.forall₂_same.mpr fun _ _ => rfl)

/-- A client of nodes whose answers depend on nothing but the address. -/
def Client.steady (f : Address → Except Failure TopologyView) : Client (StateM Unit) Unit where
  probe _ as := pure (as.map f)
  gossip limit a := pure (.error (.noAnswer a limit))
  call _ := pure (.ok ())

/-- What an activity yields with such nodes is what one of its runs yields. -/
lemma exists_runs_steady (f : Address → Except Failure TopologyView) {a : Activity Unit α}
    {l : Ledger} {r : α} (hr : (((runWith (.steady f) a).run l).run ()).1.1 = r) :
    ∃ t, Runs Ledger.Later a l t r (((runWith (.steady f) a).run l).run ()).1.2 ∧
      ∀ reg as answers, .probed reg as answers ∈ t → answers = as.map f := by
  obtain ⟨t, hrun, hfrom⟩ := runs_runWith Ledger.Later.refl (.steady f)
    (fun _ _ _ => List.length_map _) a l ()
  refine ⟨t, hr ▸ hrun, fun reg as answers hx => ?_⟩
  obtain ⟨limit, st, rfl⟩ := hfrom _ hx
  rfl

end Activity

end Roster
