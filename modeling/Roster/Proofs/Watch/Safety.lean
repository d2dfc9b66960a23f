import Roster.Proofs.Discovery.Safety
import Roster.Proofs.Watch.Run

/-!
# A pass among others

A pass makes those members inactive that were active when it asked them. They had identifiers, so
their entries are still there, whatever others have done meanwhile.

* `safe_vouchers_bind`: asking what was heard changes no member.
* `safe_retire`: the stretch in which members become inactive finds their entries.
* `safe_pass_bind`: a pass always succeeds.
-/

namespace Roster

namespace Watch

open Activity Discovery Registry

variable {τ α : Type} {post : List (Except Failure τ) → α → Prop}
  {heard : List (Except Failure τ)} {reg : Registry} {w : Watch}

lemma safe_consult_bind {d : Discovery} {maxAge : Duration} {ids : List String}
    {peers : List Record} {k : List String → Activity τ α}
    (h : ∀ kept reg', LeadsTo reg reg' → Safe post (k kept) heard reg') :
    Safe post ((consult d maxAge ids peers).bind k) heard reg := by
  induction peers generalizing reg with
  | nil => exact h [] reg (LeadsTo.refl _)
  | cons peer peers ih =>
      rw [consult, bind_eq, Activity.bind_assoc]
      intro answer
      cases answer with
      | ok v => exact safe_change_bind fun l _ hlead => ⟨LeadsTo.refl _, h _ _ hlead⟩
      | error f =>
          refine safe_note_bind (k := fun _ => (consult d maxAge ids peers).bind k)
            fun reg' hlead => ?_
          exact ih fun kept reg'' hlead' => h kept reg'' (hlead.trans hlead')

/-- Finding out who is vouched for changes no member. -/
lemma safe_vouchers_bind {report : RefreshReport} {k : List String → Activity τ α}
    (h : ∀ kept reg', LeadsTo reg reg' → Safe post (k kept) heard reg') :
    Safe post ((w.vouchers report).bind k) heard reg := by
  unfold vouchers
  cases w.gossipMaxAge with
  | none => exact h [] reg (LeadsTo.refl _)
  | some maxAge =>
      cases hids : (timedOut report).isEmpty with
      | true =>
          simp only [hids, if_true]
          exact h [] reg (LeadsTo.refl _)
      | false =>
          simp only [hids, Bool.false_eq_true, if_false]
          exact safe_consult_bind h

/-- If the members that were asked have entries, the stretch in which some of them become inactive
succeeds, and those to ask again are known. -/
lemma safe_retire (merges : Bool) {report : RefreshReport} (kept : List String)
    (before : List Key) {l : Ledger} (ho : l.registry.Orderly)
    (hcontains : ∀ r ∈ report.failed.map Prod.fst ++ report.reached,
      l.registry.contains r.key = true) :
    LeadsTo l.registry (retire merges report kept before l).2.registry ∧
      ∃ n again, (retire merges report kept before l).1 = .ok (n, again) ∧
        ∀ r ∈ again, (retire merges report kept before l).2.registry.Knows r := by
  have hstep : LeadsTo l.registry (retire merges report kept before l).2.registry := by
    rw [registry_retire]
    exact LeadsTo.single (c := .deactivate (retired merges report kept)) trivial l.now _
  have hretired : ∀ r ∈ retired merges report kept, l.registry.contains r.key = true := by
    intro r hr
    refine hcontains r (List.mem_append.mpr ?_)
    exact (List.mem_append.mp hr).imp List.mem_of_mem_filter List.mem_of_mem_filter
  have hok := fst_retire merges report kept before l
  rw [(setStatus_of_contains hretired).1, ← registry_retire merges report kept before,
    Except.map] at hok
  refine ⟨hstep, _, _, hok, fun r hr => ?_⟩
  rw [retries, List.partition_eq_filter_filter] at hr
  have hinactive := List.mem_of_mem_filter (List.mem_of_mem_filter hr)
  exact (hstep.orderly ho).knows (List.Sublist.subset (withStatus_sublist _ _) hinactive)

/-- A pass always succeeds. -/
lemma safe_pass_bind {k : Except Failure PassSummary → Activity τ α}
    (h : ∀ s reg', LeadsTo reg reg' → Safe post (k (.ok s)) heard reg') :
    Safe post (w.pass.bind k) heard reg := by
  rw [pass_eq, Activity.bind_assoc]
  refine safe_look_bind fun l₀ ho₀ hlead₀ => ?_
  rw [Activity.bind_assoc]
  refine safe_refresh_bind fun report reg₁ hlead₁ hasked => ?_
  rw [Activity.bind_assoc]
  refine safe_vouchers_bind fun kept reg₂ hlead₂ => ?_
  rw [Activity.bind_assoc]
  refine safe_change_bind fun l₃ ho₃ hlead₃ => ?_
  have hcontains : ∀ r ∈ report.failed.map Prod.fst ++ report.reached,
      l₃.registry.contains r.key = true := by
    intro r hr
    obtain ⟨hresolved, hknown⟩ := hasked r hr
    have hlead := (hlead₂.trans hlead₃).knows (hlead₁.orderly ho₀).toWellFormed hknown
    exact hlead.contains_key hresolved
  obtain ⟨hstep, n, again, hok, hknown⟩ := safe_retire w.discovery.merges kept
    (l₀.registry.inactive.map Record.key) ho₃ hcontains
  rw [hok]
  refine ⟨hstep, ?_⟩
  rw [finish, Activity.bind_assoc]
  refine safe_probeNodes_bind (hstep.orderly ho₃) hknown fun probed reg₄ hlead₄ => ?_
  exact h _ _ (hlead₀.trans (hlead₁.trans (hlead₂.trans (hlead₃.trans (hstep.trans hlead₄)))))

end Watch

end Roster
