import Mathlib.Data.List.Rotate
import Roster.Pool
import Roster.Proofs.Watch.Safety

/-!
# Calls of active nodes among others

Nodes are called one after the other, and each one that fails is made inactive. They were active
when the calls began, so they had identifiers, and their entries are still there.

* `safe_withActiveNode_bind`: the calls yield the last answer that was given, and they never fail
  for a reason of their own but that there is nobody to call.
-/

namespace Roster

/-- A list from some place on, wrapped around. -/
lemma rotateLeft_eq_rotate {α : Type} (as : List α) (i : Nat) : as.rotateLeft i = as.rotate i := by
  dsimp only [List.rotateLeft]
  split_ifs with hlength
  · -- There is nothing to wrap around.
    obtain _ | ⟨a, _ | ⟨b, as⟩⟩ := as
    · exact (List.rotate_nil i).symm
    · exact (List.rotate_singleton a i).symm
    · exact absurd hlength (by simp)
  · exact List.rotate_eq_drop_append_take_mod.symm

/-- The members are asked from some place on, wrapped around. -/
lemma Selector.order_isRotated (s : Selector) (drawn : Nat) (nodes : List Record) :
    (s.order drawn nodes).1 ~r nodes := by
  unfold order
  split
  · exact List.IsRotated.refl nodes
  · next i s' hi =>
      dsimp only
      rw [rotateLeft_eq_rotate]
      exact List.IsRotated.symm ⟨i, rfl⟩

namespace Pool

open Activity Discovery Registry

variable {τ α : Type} {post : List (Except Failure τ) → α → Prop}
  {heard : List (Except Failure τ)} {reg : Registry}

/-- A failure that is reported makes the node inactive, if it has an entry. -/
lemma registry_reportFailure (node : Record) (f : Failure) (l : Ledger) :
    (reportFailure node f l).2.registry = (l.registry.deactivate l.now [node]).2 := by
  unfold reportFailure
  dsimp only
  split
  · next n l' hd => exact (congrArg (fun x => x.2.registry) hd).symm
  · next f' l' hd => exact (congrArg (fun x => x.2.registry) hd).symm

/-- A node with an entry can be made inactive. -/
lemma reportFailure_ok {node : Record} {l : Ledger} (hc : l.registry.contains node.key = true)
    (f : Failure) :
    (reportFailure node f l).1 = .ok () ∧
      LeadsTo l.registry (reportFailure node f l).2.registry := by
  have hall : ∀ r ∈ [node], l.registry.contains r.key = true := by simpa using hc
  refine ⟨?_, ?_⟩
  · unfold reportFailure
    dsimp only
    split
    · rfl
    · next f' l' hd =>
        have hresult : (l.registry.setStatus l.now false [node]).1 = .error f' :=
          congrArg Prod.fst hd
        rw [(setStatus_of_contains hall).1] at hresult
        exact absurd hresult (by simp)
  · rw [registry_reportFailure]
    exact LeadsTo.single (c := .deactivate [node]) trivial l.now _

/-- Nodes with entries can be called one after the other; the last answer is what is yielded. -/
lemma safe_callUntil_bind {nodes : List Record} {last : Option Failure}
    {k : Except Failure τ → Activity τ α} (ho : reg.Orderly)
    (hnodes : ∀ r ∈ nodes, r.isResolved = true ∧ reg.Knows r)
    (hlast : ∀ f, last = some f → heard.getLast? = some (.error f))
    (h : ∀ heard' reg' r, LeadsTo reg reg' →
      (r = .error .noActiveNodes ∨ heard'.getLast? = some r) → Safe post (k r) heard' reg') :
    Safe post ((callUntil nodes last).bind k) heard reg := by
  induction nodes generalizing last heard reg with
  | nil =>
      cases last with
      | none => exact h heard reg (.error .noActiveNodes) (LeadsTo.refl _) (Or.inl rfl)
      | some f => exact h heard reg (.error f) (LeadsTo.refl _) (Or.inr (hlast f rfl))
  | cons node nodes ih =>
      rw [callUntil, bind_eq, Activity.bind_assoc]
      intro answer
      have hheard : (heard ++ [answer]).getLast? = some answer := by simp
      cases answer with
      | ok v => exact h _ reg (.ok v) (LeadsTo.refl _) (Or.inr hheard)
      | error f =>
          cases hf : f.isNodeFailure with
          | false =>
              simp only [hf, Bool.false_eq_true, if_false, done_bind]
              exact h _ reg (.error f) (LeadsTo.refl _) (Or.inr hheard)
          | true =>
              simp only [hf, if_true, done_bind, bind_eq, Activity.bind_assoc]
              refine safe_change_bind fun l hl hlead => ?_
              obtain ⟨hresolved, hknown⟩ := hnodes node List.mem_cons_self
              obtain ⟨hok, hstep⟩ := reportFailure_ok
                ((hlead.knows ho.toWellFormed hknown).contains_key hresolved) f
              rw [hok]
              have hlead' := hlead.trans hstep
              refine ⟨hstep, ih (hlead'.orderly ho) (fun r hr => ?_) ?_ ?_⟩
              · obtain ⟨hresolved, hknown⟩ := hnodes r (List.mem_cons_of_mem _ hr)
                exact ⟨hresolved, hlead'.knows ho.toWellFormed hknown⟩
              · intro f' hf'
                rw [hheard, Option.some.inj hf']
              · exact fun heard' reg' r hr => h heard' reg' r (hlead'.trans hr)

/-- Calling active nodes yields the last answer that was given, if any. -/
lemma safe_withActiveNode_bind {drawn : Nat} {k : Except Failure τ → Activity τ α}
    (h : ∀ heard' reg' r, LeadsTo reg reg' →
      (r = .error .noActiveNodes ∨ heard'.getLast? = some r) → Safe post (k r) heard' reg') :
    Safe post ((withActiveNode drawn).bind k) heard reg := by
  rw [withActiveNode, bind_eq, Activity.bind_assoc]
  refine safe_change_bind fun l hl hlead => ⟨LeadsTo.refl _, ?_⟩
  refine safe_callUntil_bind hl (fun r hr => ?_) (by simp)
    fun heard' reg' r hlead' => h heard' reg' r (hlead.trans hlead')
  exact hl.knows_of_active ((Selector.order_isRotated _ _ _).mem_iff.mp hr)

end Pool

end Roster
