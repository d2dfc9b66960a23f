import Roster.Proofs.Pool.Keeping
import Roster.Proofs.Pool.Sessions

/-!
# Where identifiers come from

A pool makes up no identifier. Whoever is registered under one answered under it when a call asked,
or was listed under it to a call that takes listed members over, unless other callers registered it.

* `System.Call.makes_mentioned`: a call registers only identifiers that were mentioned to it.
* `Chronicle.Mentions`: somebody mentioned an identifier to one of the calls.
* `Chronicle.LeadsWithout`: the runs in which no other caller registers an identifier.
* `Chronicle.Accounted`: the invariant of such a run. If an identifier is registered, it was
  mentioned.
* `Chronicle.LeadsWithout.mentions`: where the identifiers of a run come from.
-/

namespace Roster

open Activity Discovery Registry

variable {τ : Type}

/-! ### Calls -/

/-- A call registers only identifiers that were mentioned to it. -/
lemma System.Call.makes_mentioned (call : System.Call) (l : Ledger) :
    Makes (τ := τ) (fun t c => ∀ i, c.Names i → Mentioned call.merges t i) call.activity [] l := by
  cases call with
  | pass w =>
      exact Watch.makes_pass_bind (fun _ _ _ hc => hc) (fun _ _ _ _ => False.elim)
        fun _ _ _ => trivial
  | refresh d => exact makes_refresh_bind (fun _ _ _ hc => hc) fun _ _ => trivial
  | bootstrap d seeds => exact makes_bootstrap_bind _ (fun _ _ _ hc => hc) fun _ _ _ => trivial
  | probeNodes d records => exact makes_probeNodes_bind _ (fun _ _ _ hc => hc) fun _ _ => trivial
  | withActiveNode drawn =>
      exact Pool.makes_withActiveNode_bind (fun _ _ _ _ _ _ => False.elim) fun _ _ _ => trivial

/-- The identifiers that somebody may register. -/
def Actor.Registers : Actor τ → String → Prop
  | nobody, _ | reporter _, _ => False
  | caller c, i => c.Names i
  | task made told, i => Mentioned made.merges told i

namespace Chronicle

variable {s s' : Chronicle τ} {who : Actor τ} {i : String}

/-! ### What calls were told -/

/-- Somebody mentioned an identifier to one of the calls. -/
def Mentions (s : Chronicle τ) (i : String) : Prop :=
  ∃ task ∈ s.tasks, Mentioned task.call.merges task.told i

/-- What a call was told stays so. -/
lemma Move.exists_task (hm : Move s who s') {task : Task τ} (htask : task ∈ s.tasks) :
    ∃ task' ∈ s'.tasks, task'.call = task.call ∧ task.told ⊆ task'.told := by
  cases hm with
  | idle _ | change _ | report _ _ => exact ⟨task, htask, rfl, List.Subset.refl _⟩
  | call call => exact ⟨task, List.mem_append_left _ htask, rfl, List.Subset.refl _⟩
  | answer hasking htold =>
      rename_i n asking x next
      obtain ⟨k, hk, rfl⟩ := List.getElem_of_mem htask
      obtain ⟨hn, hget⟩ := List.getElem?_eq_some_iff.mp hasking
      by_cases hnk : n = k
      · -- It is this call that was told more.
        subst hnk
        rw [hget]
        exact ⟨_, List.mem_set hn _, rfl, List.subset_append_left _ _⟩
      · refine ⟨s.tasks[k], ?_, rfl, List.Subset.refl _⟩
        rw [List.mem_iff_getElem?]
        exact ⟨k, by rw [List.getElem?_set_ne hnk, List.getElem?_eq_getElem hk]⟩

lemma Move.mentions (hm : Move s who s') (h : s.Mentions i) : s'.Mentions i := by
  obtain ⟨task, htask, reg, asked, answers, v, hprobed, hv⟩ := h
  obtain ⟨task', htask', hcall, htold⟩ := hm.exists_task htask
  exact ⟨task', htask', reg, asked, answers, v, htold hprobed, by rwa [hcall]⟩

/-- Whoever does something with what was mentioned is one of the calls. -/
lemma Move.mentions_of_registers (hm : Move s who s') (h : who.Registers i)
    (hcaller : ∀ c, who = .caller c → ¬ c.Names i) : s'.Mentions i := by
  cases hm with
  | idle _ | report _ _ => exact h.elim
  | change c => exact absurd h (hcaller c rfl)
  | call call => exact ⟨_, List.mem_append_right _ (List.mem_singleton.mpr rfl), h⟩
  | answer hasking htold =>
      obtain ⟨hn, -⟩ := List.getElem?_eq_some_iff.mp hasking
      exact ⟨_, List.mem_set hn _, h⟩

/-! ### Runs -/

/-- One chronicle is followed by another one, while no other caller registers an identifier. -/
def LeadsWithout (i : String) : Chronicle τ → Chronicle τ → Prop :=
  Relation.ReflTransGen fun s s' => ∃ who, Move s who s' ∧ ∀ c, who = .caller c → ¬ c.Names i

/-- What holds of every chronicle of such a run. -/
structure Accounted (i : String) (s : Chronicle τ) : Prop where
  wellFormed : s.ledger.registry.WellFormed
  makes : ∀ task ∈ s.tasks, Makes (fun t c => ∀ i, c.Names i → Mentioned task.call.merges t i)
    task.rest task.told task.asking
  mentions : s.ledger.registry.contains (.identifier i) = true → s.Mentions i

lemma Accounted.move (h : Accounted i s) (hm : Move s who s')
    (hcaller : ∀ c, who = .caller c → ¬ c.Names i) : Accounted i s' := by
  obtain ⟨hvia, hmakes⟩ := hm.makes (P := fun who c => ∀ i, c.Names i → who.Registers i)
    (fun _ _ => id) (fun _ _ => False.elim) (fun call l => call.makes_mentioned l) h.makes
  refine ⟨hvia.wellFormed h.wellFormed, hmakes, fun hi => ?_⟩
  rcases hvia.exists_names h.wellFormed hi with hbefore | ⟨c, hc, hnames⟩
  · exact hm.mentions (h.mentions hbefore)
  · exact hm.mentions_of_registers (hc i hnames) hcaller

lemma LeadsWithout.accounted {now : Instant} {strategy : Strategy}
    (h : LeadsWithout i (start now strategy) s) : Accounted i s := by
  induction h with
  | refl =>
      refine ⟨WellFormed.empty, by simp [start], fun hempty => ?_⟩
      cases hempty
  | tail _ hmove ih =>
      obtain ⟨who, hm, hcaller⟩ := hmove
      exact ih.move hm hcaller

/-- **Where identifiers come from.** In a run that begins without members, an identifier that is
registered was mentioned to one of the calls, unless another caller registered it. -/
lemma LeadsWithout.mentions {now : Instant} {strategy : Strategy}
    (h : LeadsWithout i (start now strategy) s)
    (hi : s.ledger.registry.contains (.identifier i) = true) : s.Mentions i :=
  h.accounted.mentions hi

end Chronicle

end Roster
